import Mathlib.Data.List.Basic
import Groute.Lib.EventSystem

/-!
# Lists filled by a loop, shown row by row

A loop over the elements of one list appends to another one, and stops the
program where an element cannot be converted: `foldlM_concat` reads it as
`List.mapM`.

A table asks its data source for the number of its rows and then for each row,
by index, which stops the program beyond the end: `reload`.  It keeps what it
was given until it is reloaded, and a tap is answered by a third method of the
data source from what the screen holds by then.  A `Screen` reacts to events
beside the taps; some of its handlers reload the table.

If the three methods read one list, and a handler that does not reload the table
does not change this list, then the table is never out of date and a tap opens
what was shown: `Screen.Lawful.current`.
-/

universe u v w x y

namespace TableView

variable {α : Type u} {β : Type v} {σ : Type w} {ε : Type x} {δ : Type y}

/-! ## Filling -/

/-- Appending each converted element to a list that is part of a record. -/
theorem foldlM_concat (get : σ → List β) (put : σ → List β → σ)
    (hget : ∀ s bs, get (put s bs) = bs) (hput : ∀ s bs bs', put (put s bs) bs' = put s bs')
    (hself : ∀ s, put s (get s) = s) (f : α → Option β) (as : List α) (s : σ) :
    as.foldlM (fun s a => (f a).map fun b => put s (get s ++ [b])) s =
      (as.mapM f).map fun bs => put s (get s ++ bs) := by
  induction as generalizing s with
  | nil => simp [hself]
  | cons a as ih =>
      rw [List.foldlM_cons, List.mapM_cons]
      cases f a with
      | none => rfl
      | some b =>
          change as.foldlM _ (put s (get s ++ [b])) = _
          rw [ih]
          cases as.mapM f <;> simp [hget, hput]

/-- If every element converts, these are the conversions. -/
theorem mapM_eq_some {f : α → Option β} {as : List α} {bs : List β} (h : as.mapM f = some bs) :
    as.map f = bs.map some := by
  induction as generalizing bs with
  | nil => cases h; rfl
  | cons a as ih =>
      rw [List.mapM_cons] at h
      obtain ⟨b, hb, h⟩ := Option.bind_eq_some_iff.mp h
      obtain ⟨bs', hbs, h⟩ := Option.bind_eq_some_iff.mp h
      cases h
      rw [List.map_cons, hb, ih hbs, List.map_cons]

/-- There are as many. -/
theorem length_mapM {f : α → Option β} {as : List α} {bs : List β} (h : as.mapM f = some bs) :
    bs.length = as.length := by
  simpa using (congrArg List.length (mapM_eq_some h)).symm

/-- No other elements are left. -/
theorem filterMap_of_mapM {f : α → Option β} {as : List α} {bs : List β}
    (h : as.mapM f = some bs) : as.filterMap f = bs := by
  have hid := congrArg (List.filterMap id) (mapM_eq_some h)
  rwa [List.filterMap_map, List.filterMap_map, Function.id_comp, Function.id_comp,
    List.filterMap_some] at hid

/-- If each element converts, so does the list. -/
theorem mapM_of_isSome {f : α → Option β} {as : List α} (h : ∀ a ∈ as, (f a).isSome) :
    as.mapM f = some (as.filterMap f) := by
  induction as with
  | nil => rfl
  | cons a as ih =>
      obtain ⟨b, hb⟩ := Option.isSome_iff_exists.mp (h a List.mem_cons_self)
      rw [List.mapM_cons, hb, ih fun a' ha' => h a' (List.mem_cons_of_mem a ha'),
        List.filterMap_cons_some hb]
      rfl

/-- Conversions that agree on the elements convert the list alike. -/
theorem mapM_congr {f g : α → Option β} {as : List α} (h : ∀ a ∈ as, f a = g a) :
    as.mapM f = as.mapM g := by
  induction as with
  | nil => rfl
  | cons a as ih =>
      rw [List.mapM_cons, List.mapM_cons, h a List.mem_cons_self,
        ih fun b hb => h b (List.mem_cons_of_mem a hb)]

/-! ## Showing -/

/-- `reloadData`: the table asks for the number of rows and then for each row. -/
def reload (numberOfRows : Nat) (cellForRow : Nat → Option α) : Option (List α) :=
  (List.range numberOfRows).mapM cellForRow

/-- A data source over a list that counts its rows by that list shows it. -/
theorem reload_eq (xs : List α) : reload xs.length (fun row => xs[row]?) = some xs := by
  rw [reload]
  induction xs with
  | nil => rfl
  | cons x xs ih =>
      rw [List.length_cons, List.range_succ_eq_map, List.mapM_cons, List.mapM_map]
      change (List.mapM (fun row => xs[row]?) (List.range xs.length)).bind _ = _
      rw [ih]
      rfl

/-- So does one that has the elements of the list where it is asked for them. -/
theorem reload_of_getElem? {cellForRow : Nat → Option α} {xs : List α}
    (h : ∀ row, row < xs.length → cellForRow row = xs[row]?) :
    reload xs.length cellForRow = some xs := by
  rw [← reload_eq xs]
  exact mapM_congr fun row hrow => h row (List.mem_range.mp hrow)

/-- A screen with a table: the methods of its data source, and how it reacts to
events. -/
structure Screen (σ : Type w) (ε : Type x) (α : Type u) (δ : Type y) where
  /-- The data source's number of rows. -/
  numberOfRows : σ → Nat
  /-- The data source's cell of a row, unless the method traps. -/
  cellForRow : σ → Nat → Option α
  /-- What a tap on a row opens, unless the method traps. -/
  prepare : σ → Nat → Option δ
  /-- What an event makes of the screen, unless its handler traps. -/
  handle : σ → ε → Option σ
  /-- The handler reloads the table. -/
  reloads : ε → Bool

namespace Screen

/-- A screen on display. -/
structure State (σ : Type w) (α : Type u) (δ : Type y) where
  /-- The screen. -/
  vc : σ
  /-- What the table was given when it was last reloaded. -/
  table : List α
  /-- What the last tap opened. -/
  opened : Option δ := none
  /-- The process has trapped. -/
  trapped : Bool := false

/-- What can happen. -/
inductive Event (ε : Type x) where
  /-- A handler runs. -/
  | handled (e : ε)
  /-- The user taps a row of the table. -/
  | tap (row : Nat)

/-- The state after an event, unless the process has trapped. -/
def step (S : Screen σ ε α δ) (s : State σ α δ) (e : Event ε) : Option (State σ α δ) :=
  if s.trapped then none
  else match e with
    | .handled e =>
        let after := (S.handle s.vc e).bind fun vc =>
          if S.reloads e then
            (reload (S.numberOfRows vc) (S.cellForRow vc)).map fun table => { s with vc, table }
          else some { s with vc }
        some (after.getD { s with trapped := true })
    | .tap row =>
        if row < s.table.length then
          let after := (S.prepare s.vc row).map fun opened => { s with opened := some opened }
          some (after.getD { s with trapped := true })
        else none

/-- The screen on display as an event system. -/
def system (S : Screen σ ε α δ) : EventSystem (State σ α δ) (Event ε) := ⟨S.step⟩

/-- The table holds what the data source would return now, and a tap on any of its
rows opens what the row shows. -/
structure Current {κ : Type v} (S : Screen σ ε α δ) (shown : α → κ) (passed : δ → κ)
    (s : State σ α δ) : Prop where
  count : S.numberOfRows s.vc = s.table.length
  table : reload (S.numberOfRows s.vc) (S.cellForRow s.vc) = some s.table
  tap : ∀ row (h : row < s.table.length),
    ∃ opened, S.prepare s.vc row = some opened ∧ passed opened = shown s.table[row]

/-- The three methods read the same list, and handlers that change it reload the
table. -/
structure Lawful {ι : Type v} (S : Screen σ ε α δ) (items : σ → List ι) (cell : ι → α)
    (destination : σ → ι → δ) : Prop where
  numberOfRows : ∀ vc, S.numberOfRows vc = (items vc).length
  cellForRow : ∀ vc row, S.cellForRow vc row = (items vc)[row]?.map cell
  prepare : ∀ vc row, S.prepare vc row = (items vc)[row]?.map (destination vc)
  frame : ∀ {vc vc' e}, S.reloads e = false → S.handle vc e = some vc' → items vc' = items vc

namespace Lawful

variable {S : Screen σ ε α δ} {ι κ : Type v} {items : σ → List ι} {cell : ι → α}
  {destination : σ → ι → δ} {s t : State σ α δ} {e : Event ε} {es : List (Event ε)}

/-- A reload shows all items. -/
theorem reload_eq (h : S.Lawful items cell destination) (vc : σ) :
    reload (S.numberOfRows vc) (S.cellForRow vc) = some ((items vc).map cell) := by
  have hcell : S.cellForRow vc = fun row => ((items vc).map cell)[row]? := by
    funext row
    rw [h.cellForRow, List.getElem?_map]
  rw [hcell, h.numberOfRows, ← List.length_map cell]
  exact TableView.reload_eq _

/-- Every step leaves the items in the table. -/
theorem step (h : S.Lawful items cell destination) (hs : s.table = (items s.vc).map cell)
    (hstep : S.step s e = some t) : t.table = (items t.vc).map cell := by
  obtain ⟨-, hstep⟩ := Option.ite_none_left_eq_some.mp hstep
  cases e with
  | handled e =>
      cases hstep
      cases hhandle : S.handle s.vc e with
      | none => exact hs
      | some vc =>
          rw [Option.bind_some, h.reload_eq]
          split_ifs with hreloads
          · rfl
          · have hframe := h.frame (eq_false_of_ne_true hreloads) hhandle
            exact hs.trans (congrArg (List.map cell) hframe.symm)
  | tap row =>
      obtain ⟨-, ⟨⟩⟩ := Option.ite_none_right_eq_some.mp hstep
      cases S.prepare s.vc row <;> exact hs

/-- What a handler makes of the screen; one that traps and a tap leave it alone. -/
theorem vc_handled (h : S.Lawful items cell destination) {e : ε}
    (hstep : S.step s (.handled e) = some t) : t.vc = (S.handle s.vc e).getD s.vc := by
  obtain ⟨-, ⟨⟩⟩ := Option.ite_none_left_eq_some.mp hstep
  cases S.handle s.vc e with
  | none => rfl
  | some vc =>
      rw [Option.bind_some, h.reload_eq]
      split_ifs <;> rfl

theorem vc_tap {row : Nat} (hstep : S.step s (.tap row) = some t) : t.vc = s.vc := by
  obtain ⟨-, hstep⟩ := Option.ite_none_left_eq_some.mp hstep
  obtain ⟨-, ⟨⟩⟩ := Option.ite_none_right_eq_some.mp hstep
  cases S.prepare s.vc row <;> rfl

/-- **No stale rows.**  In every state of a run the table is up to date, and a tap
on one of its rows opens what the row shows. -/
theorem current {shown : α → κ} {passed : δ → κ} (h : S.Lawful items cell destination)
    (hpassed : ∀ vc item, passed (destination vc item) = shown (cell item))
    (hrun : S.system.Runs s es t) (hs : s.table = (items s.vc).map cell) :
    S.Current shown passed t := by
  have htable : t.table = (items t.vc).map cell :=
    hrun.invariant (I := fun s => s.table = (items s.vc).map cell)
      (fun hI _ hstep => h.step hI hstep) hs
  refine ⟨?_, ?_, fun row hrow => ?_⟩
  · rw [h.numberOfRows, htable, List.length_map]
  · rw [h.reload_eq, htable]
  · have hlt : row < (items t.vc).length := by rwa [htable, List.length_map] at hrow
    refine ⟨destination t.vc (items t.vc)[row], ?_, ?_⟩
    · rw [h.prepare, List.getElem?_eq_getElem hlt, Option.map_some]
    · simp only [htable, List.getElem_map, hpassed]

/-- **The wanted rows.**  Along a run the table shows the wanted items in every state
exactly if no step makes the items differ from the wanted ones, when `C` says which
steps do not. -/
theorem forall_table_iff {wanted : σ → List ι} {C : State σ α δ → Event ε → Prop}
    (h : S.Lawful items cell destination) (hcell : Function.Injective cell)
    (hstep : ∀ {s e t}, items s.vc = wanted s.vc → S.step s e = some t →
      (items t.vc = wanted t.vc ↔ C s e))
    (hrun : S.system.Runs s es t) (htable : s.table = (items s.vc).map cell)
    (hs : items s.vc = wanted s.vc) :
    (∀ fs u, fs <+: es → S.system.Runs s fs u → u.table = (wanted u.vc).map cell) ↔
      S.system.Steps C s es t := by
  have hrows : ∀ fs u, fs <+: es → S.system.Runs s fs u →
      (u.table = (wanted u.vc).map cell ↔ items u.vc = wanted u.vc) := by
    intro fs u _ hu
    have hu' := hu.invariant (I := fun s => s.table = (items s.vc).map cell)
      (fun hI _ hstep => h.step hI hstep) htable
    rw [hu']
    exact (List.map_injective_iff.mpr hcell).eq_iff
  have hsteps := hrun.iff_steps (I := fun s => items s.vc = wanted s.vc)
    (C := fun s e => ∀ t, S.step s e = some t → items t.vc = wanted t.vc) (D := C)
    (fun _ _ hC hnext => hC _ hnext)
    (fun hI _ hnext => (EventSystem.forall_next_iff hnext).trans (hstep hI hnext)) hs
  refine Iff.trans ?_ hsteps
  have hprefix := (hrun.forall_prefix_iff (P := fun s => items s.vc = wanted s.vc)).trans
    (and_iff_right hs)
  refine Iff.trans ?_ hprefix
  exact forall_congr' fun fs => forall_congr' fun u => imp_congr_right fun hfs =>
    imp_congr_right fun hu => hrows fs u hfs hu

end Lawful

end Screen

end TableView
