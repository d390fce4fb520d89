import Mathlib.Data.List.Nodup
import Mathlib.Tactic.TypeStar

/-!
# Keyed collections

A `Collection κ α` is a finite set of documents of type `α` under distinct keys
of type `κ`.  The keys are distinct by construction: the field `nodup` is part
of the value, and every operation re-establishes it.

The three updates are `set`, `modify` and `erase`; each comes with the two
equations that say what it does at its own key and that it leaves every other
key alone.  `query` lists the documents that meet a test.
-/

universe u v

/-- A finite collection of documents under distinct keys. -/
structure Collection (κ : Type u) (α : Type v) where
  /-- The documents with their keys. -/
  docs : List (κ × α)
  /-- No key occurs twice. -/
  nodup : (docs.map Prod.fst).Nodup

namespace Collection

variable {κ : Type u} {α : Type v} [DecidableEq κ] {k l : κ} {a b : α} {p : α → Bool}

/-- The collection without documents. -/
def empty : Collection κ α := ⟨[], List.nodup_nil⟩

instance : Inhabited (Collection κ α) := ⟨empty⟩

/-- The document under a key. -/
def get (c : Collection κ α) (k : κ) : Option α := c.docs.lookup k

/-- Remove the document under a key, if there is one. -/
def erase (c : Collection κ α) (k : κ) : Collection κ α where
  docs := c.docs.filter fun d => d.1 ≠ k
  nodup := (c.nodup.sublist (List.filter_sublist.map Prod.fst))

theorem notMem_map_fst_erase (c : Collection κ α) (k : κ) :
    k ∉ (c.erase k).docs.map Prod.fst := by
  simp [erase]

/-- Write a document under a key, replacing what was there. -/
def set (c : Collection κ α) (k : κ) (a : α) : Collection κ α where
  docs := (k, a) :: (c.erase k).docs
  nodup := List.nodup_cons.mpr ⟨c.notMem_map_fst_erase k, (c.erase k).nodup⟩

theorem map_fst_modify (c : Collection κ α) (k : κ) (f : α → α) :
    (c.docs.map fun d => if d.1 = k then (d.1, f d.2) else d).map Prod.fst =
      c.docs.map Prod.fst := by
  rw [List.map_map]
  refine List.map_congr_left fun d _ => ?_
  by_cases h : d.1 = k <;> simp [h]

/-- Change the document under a key; without one, nothing changes. -/
def modify (c : Collection κ α) (k : κ) (f : α → α) : Collection κ α where
  docs := c.docs.map fun d => if d.1 = k then (d.1, f d.2) else d
  nodup := by rw [map_fst_modify]; exact c.nodup

/-- The documents that meet a test, with their keys. -/
def query (c : Collection κ α) (p : α → Bool) : List (κ × α) :=
  c.docs.filter fun d => p d.2

/-! ## Reading -/

/-- A document is listed exactly when it is found under its key. -/
theorem mem_docs_iff {c : Collection κ α} : (k, a) ∈ c.docs ↔ c.get k = some a := by
  obtain ⟨docs, nodup⟩ := c
  simp only [get]
  induction docs with
  | nil => simp
  | cons d ds ih =>
      obtain ⟨l, b⟩ := d
      rw [List.map_cons, List.nodup_cons] at nodup
      by_cases h : k = l
      · subst h
        rw [List.lookup_cons_self, Option.some.injEq, List.mem_cons, Prod.mk.injEq]
        constructor
        · rintro (⟨-, rfl⟩ | hmem)
          · rfl
          · exact absurd (List.mem_map_of_mem hmem) nodup.1
        · rintro rfl
          exact Or.inl ⟨rfl, rfl⟩
      · have hne : (k == l) = false := by simpa using h
        rw [List.lookup_cons, hne, List.mem_cons, Prod.mk.injEq, ← ih nodup.2]
        exact ⟨fun hm => hm.resolve_left fun hk => h hk.1, Or.inr⟩

theorem get_eq_none_iff {c : Collection κ α} : c.get k = none ↔ ∀ a, (k, a) ∉ c.docs := by
  rw [Option.eq_none_iff_forall_not_mem]
  exact forall_congr' fun a => not_congr mem_docs_iff.symm

omit [DecidableEq κ] in
theorem eq_empty_of_isEmpty {c : Collection κ α} (h : c.docs.isEmpty) : c = empty := by
  obtain ⟨docs, nodup⟩ := c
  obtain rfl := List.isEmpty_iff.mp h
  rfl

/-- A collection is empty exactly if nothing is found in it. -/
theorem eq_empty_iff {c : Collection κ α} : c = empty ↔ ∀ k, c.get k = none := by
  refine ⟨fun h k => by rw [h]; rfl, fun h => ?_⟩
  refine eq_empty_of_isEmpty (List.isEmpty_iff.mpr (List.eq_nil_iff_forall_not_mem.mpr ?_))
  exact fun d => get_eq_none_iff.mp (h d.1) d.2

@[simp] theorem get_erase_self (c : Collection κ α) (k : κ) : (c.erase k).get k = none :=
  get_eq_none_iff.mpr fun _ h => c.notMem_map_fst_erase k (List.mem_map_of_mem h)

theorem get_erase_of_ne (c : Collection κ α) (h : l ≠ k) : (c.erase k).get l = c.get l := by
  ext a
  rw [← mem_docs_iff, ← mem_docs_iff]
  simp [erase, h]

@[simp] theorem get_set_self (c : Collection κ α) (k : κ) (a : α) : (c.set k a).get k = some a :=
  mem_docs_iff.mp List.mem_cons_self

theorem get_set_of_ne (c : Collection κ α) (a : α) (h : l ≠ k) : (c.set k a).get l = c.get l := by
  rw [← get_erase_of_ne c h]
  have hne : (l == k) = false := by simpa using h
  simp [get, set, List.lookup_cons, hne]

theorem get_modify_self (c : Collection κ α) (k : κ) (f : α → α) :
    (c.modify k f).get k = (c.get k).map f := by
  ext b
  rw [Option.map_eq_some_iff, ← mem_docs_iff]
  simp only [← mem_docs_iff, modify, List.mem_map]
  constructor
  · rintro ⟨⟨l, a⟩, hd, heq⟩
    by_cases h : l = k
    · subst h
      rw [if_pos rfl, Prod.mk.injEq] at heq
      exact ⟨a, hd, heq.2⟩
    · rw [if_neg h, Prod.mk.injEq] at heq
      exact absurd heq.1 h
  · rintro ⟨a, hd, rfl⟩
    exact ⟨(k, a), hd, by simp⟩

theorem get_modify_of_ne (c : Collection κ α) (f : α → α) (h : l ≠ k) :
    (c.modify k f).get l = c.get l := by
  ext b
  rw [← mem_docs_iff, ← mem_docs_iff]
  simp only [modify, List.mem_map]
  constructor
  · rintro ⟨⟨m, a⟩, hd, heq⟩
    by_cases hm : m = k
    · rw [if_pos hm, Prod.mk.injEq] at heq
      exact absurd (heq.1.symm.trans hm) h
    · rw [if_neg hm] at heq
      exact heq ▸ hd
  · intro hd
    exact ⟨(l, b), hd, by rw [if_neg h]⟩

/-! ## Queries -/

theorem mem_query_iff {c : Collection κ α} {p : α → Bool} :
    (k, a) ∈ c.query p ↔ c.get k = some a ∧ p a = true := by
  rw [query, List.mem_filter, mem_docs_iff]

omit [DecidableEq κ] in
/-- A query lists no key twice. -/
theorem nodup_query (c : Collection κ α) (p : α → Bool) : ((c.query p).map Prod.fst).Nodup :=
  c.nodup.sublist (List.filter_sublist.map Prod.fst)

omit [DecidableEq κ] in
/-- Records that carry the key of their document have distinct keys. -/
theorem nodup_map_filterMap {β : Type*} {decode : κ × α → Option β} {key : β → κ}
    (hkey : ∀ d b, decode d = some b → key b = d.1) {docs : List (κ × α)}
    (h : (docs.map Prod.fst).Nodup) : ((docs.filterMap decode).map key).Nodup := by
  refine h.sublist ?_
  clear h
  induction docs with
  | nil => exact .slnil
  | cons d docs ih =>
      cases hd : decode d with
      | none =>
          rw [List.filterMap_cons_none hd]
          exact ih.cons _
      | some b =>
          rw [List.filterMap_cons_some hd, List.map_cons, List.map_cons, hkey d b hd]
          exact ih.cons_cons _

/-- Where no key is listed twice, a document is listed once under its key. -/
theorem filter_key {docs : List (κ × α)} (h : (docs.map Prod.fst).Nodup) (hmem : (k, a) ∈ docs) :
    (docs.filter fun d => d.1 = k) = [(k, a)] := by
  have hnodup : (docs.filter fun d => d.1 = k).Nodup := (h.of_map Prod.fst).filter _
  refine List.perm_singleton.mp ((List.perm_ext_iff_of_nodup hnodup
    (List.nodup_singleton _)).mpr fun d => ?_)
  rw [List.mem_filter, List.mem_singleton, decide_eq_true_eq]
  constructor
  · rintro ⟨hd, rfl⟩
    exact List.inj_on_of_nodup_map h hd hmem rfl
  · rintro rfl
    exact ⟨hmem, rfl⟩

/-- So is the record that is made of it. -/
theorem filter_filterMap_key {β : Type*} {decode : κ × α → Option β} {key : β → κ}
    (hkey : ∀ d b, decode d = some b → key b = d.1) {docs : List (κ × α)}
    (h : (docs.map Prod.fst).Nodup) (hmem : (k, a) ∈ docs) {b : β}
    (hb : decode (k, a) = some b) :
    ((docs.filterMap decode).filter fun b => key b = k) = [b] := by
  have hfilter : ((docs.filterMap decode).filter fun b => key b = k) =
      (docs.filter fun d => d.1 = k).filterMap decode := by
    rw [List.filter_filterMap, List.filterMap_filter]
    refine List.filterMap_congr fun d _ => ?_
    cases hd : decode d with
    | none => simp
    | some b => simp [Option.filter, hkey d b hd]
  rw [hfilter, filter_key h hmem, List.filterMap_cons_some hb, List.filterMap_nil]

/-- A document after `set` is the new one or was there before. -/
theorem mem_docs_set {c : Collection κ α} {d : κ × α} (h : d ∈ (c.set k a).docs) :
    d = (k, a) ∨ d ∈ c.docs :=
  (List.mem_cons.mp h).imp_right fun h => (List.mem_filter.mp h).1

/-- A document after `erase` was there before. -/
theorem mem_docs_erase {c : Collection κ α} {d : κ × α} (h : d ∈ (c.erase k).docs) :
    d ∈ c.docs :=
  (List.mem_filter.mp h).1

/-- Erasing an absent key changes nothing. -/
theorem erase_of_get_eq_none {c : Collection κ α} (h : c.get k = none) : c.erase k = c := by
  obtain ⟨docs, nodup⟩ := c
  have hdocs : docs.filter (fun d => d.1 ≠ k) = docs :=
    List.filter_eq_self.mpr fun d hd => by
      rw [decide_eq_true_eq]
      rintro rfl
      exact get_eq_none_iff.mp h d.2 hd
  simp only [erase, hdocs]

/-- A new document is listed first by the queries it meets. -/
theorem query_set {c : Collection κ α} (h : c.get k = none) :
    (c.set k a).query p = if p a then (k, a) :: c.query p else c.query p := by
  change ((k, a) :: (c.erase k).docs).filter (fun d => p d.2) = _
  rw [erase_of_get_eq_none h, List.filter_cons]
  rfl

/-- A new document adds one result to the queries it meets. -/
theorem length_query_set {c : Collection κ α} (h : c.get k = none) :
    ((c.set k a).query p).length = (c.query p).length + if p a then 1 else 0 := by
  rw [query_set h]
  split <;> rfl

/-- Erasing a key removes it from the queries. -/
theorem query_erase (c : Collection κ α) (k : κ) :
    (c.erase k).query p = (c.query p).filter fun d => d.1 ≠ k := by
  rw [query, query, erase, List.filter_filter, List.filter_filter]
  exact List.filter_congr fun d _ => Bool.and_comm _ _

/-- A query that lists the same keys after a document was added lists the same
documents. -/
theorem query_set_of_keys {c : Collection κ α} (h : c.get k = none)
    (hkeys : ((c.set k a).query p).map Prod.fst = (c.query p).map Prod.fst) :
    (c.set k a).query p = c.query p := by
  have hlength := congrArg List.length hkeys
  rw [List.length_map, List.length_map, length_query_set h] at hlength
  rw [query_set h, if_neg]
  intro hp
  rw [if_pos hp] at hlength
  exact Nat.succ_ne_self _ hlength

/-- The same after one was removed. -/
theorem query_erase_of_keys {c : Collection κ α}
    (hkeys : ((c.erase k).query p).map Prod.fst = (c.query p).map Prod.fst) :
    (c.erase k).query p = c.query p := by
  have hlength := congrArg List.length hkeys
  rw [List.length_map, List.length_map, query_erase] at hlength
  rw [query_erase]
  exact List.filter_sublist.eq_of_length hlength

omit [DecidableEq κ] in
/-- A query without a test lists everything. -/
theorem query_true (c : Collection κ α) : (c.query fun _ => true) = c.docs :=
  List.filter_true c.docs

/-! ## Splitting by a field -/

omit [DecidableEq κ] in
/-- A list is made up of its parts, one for each value of a key. -/
theorem perm_flatMap_filter {β : Type*} [DecidableEq β] (key : α → β) {values : List β}
    (hvalues : values.Nodup) {xs : List α} (h : ∀ x ∈ xs, key x ∈ values) :
    (values.flatMap fun v => xs.filter fun x => key x = v).Perm xs := by
  induction xs with
  | nil => exact .of_eq (List.flatMap_eq_nil_iff.mpr fun _ _ => rfl)
  | cons x xs ih =>
      have hrest := ih fun y hy => h y (List.mem_cons_of_mem x hy)
      -- the part of `x` is the only one that `x` belongs to
      obtain ⟨before, after, rfl⟩ := List.append_of_mem (h x List.mem_cons_self)
      have hnotMem := (List.nodup_cons.mp (List.nodup_middle.mp hvalues)).1
      have hskip {vs : List β} (hvs : key x ∉ vs) :
          (vs.flatMap fun v => (x :: xs).filter fun y => key y = v) =
            vs.flatMap fun v => xs.filter fun y => key y = v :=
        List.flatMap_congr fun v hv => by
          have hne : key x ≠ v := fun heq => hvs (heq ▸ hv)
          exact List.filter_cons_of_neg (by simpa using hne)
      rw [List.mem_append, not_or] at hnotMem
      rw [List.flatMap_append, List.flatMap_cons] at hrest ⊢
      rw [hskip hnotMem.1, hskip hnotMem.2, List.filter_cons_of_pos (by simp), List.cons_append]
      exact List.perm_middle.trans (hrest.cons x)

end Collection
