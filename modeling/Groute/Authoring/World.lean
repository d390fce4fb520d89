import Groute.Authoring.Session

/-!
# Authoring runs on any number of clients

A `World` is the shared database with all authoring runs that were ever
started.  Its events start a run, let one of the runs react, or apply a write of
another feature of the app (likes, reviews and deletions), in any order.

Starting a run draws the random identifier of `createRouteDocument` and adds its
document under a fresh reference.  `World.Fresh` is what is assumed of the two:
the reference was never used, and no run and no document has that random
identifier.
-/

namespace Groute

/-- All subcollections. -/
def Sub.all : List Sub := [.route, .comment, .favorite]

theorem Sub.mem_all (c : Sub) : c ∈ Sub.all := by
  cases c <;> simp [Sub.all]

/-- Nothing lies at or under a reference. -/
def Store.Unused (st : Store) (id : DocId) : Prop :=
  (st.content.get id).isNone ∧ ∀ c ∈ Sub.all, (st.sub c id).docs.isEmpty

instance (st : Store) (id : DocId) : Decidable (st.Unused id) :=
  inferInstanceAs (Decidable (_ ∧ _))

theorem Store.Unused.content {st : Store} {id : DocId} (h : st.Unused id) :
    st.content.get id = none :=
  Option.isNone_iff_eq_none.mp h.1

theorem Store.Unused.sub {st : Store} {id : DocId} (h : st.Unused id) (c : Sub) :
    st.sub c id = .empty :=
  Collection.eq_empty_of_isEmpty (h.2 c c.mem_all)

/-- The writes of the other features of the app: they add documents to
subcollections and delete documents. -/
def Write.isElsewhere : Write → Bool
  | .addContent _ _ | .updateContent _ _ => false
  | .deleteContent _ | .addSub _ _ _ _ | .deleteSub _ _ _ => true

theorem Write.keepsId_of_isElsewhere {w : Write} (h : w.isElsewhere) : w.keepsId := by
  cases w <;> trivial

/-- The database and the authoring runs. -/
structure World where
  store : Store
  sessions : List Session

namespace World

/-- What can happen. -/
inductive Event where
  /-- A title screen loads and calls `createRouteDocument`. -/
  | enter (created : DocId) (randomElement : Nat → Fin letters.length)
      (currentUser : Option String) (now : Date) (ok : Bool)
  /-- The `i`-th run reacts. -/
  | run (i : Nat) (e : Session.Event) (ok : Bool)
  /-- Another feature of the app writes. -/
  | elsewhere (w : Write)

/-- A reference and a random identifier that were not used before. -/
def Fresh (w : World) (created : DocId) (createId : String) : Prop :=
  created ≠ "" ∧ w.store.Unused created ∧ (w.store.contentWithId createId).isEmpty ∧
    ∀ s ∈ w.sessions, s.created ≠ created ∧ s.title.createId ≠ createId

instance (w : World) (created : DocId) (createId : String) :
    Decidable (w.Fresh created createId) :=
  inferInstanceAs (Decidable (_ ∧ _ ∧ _ ∧ _))

/-- The world after an event. -/
def step (w : World) : Event → Option World
  | .enter created randomElement currentUser now ok =>
      let createId := TitleViewController.drawId randomElement
      if w.Fresh created createId then
        some {
          store := if ok then
              w.store.apply (.addContent created
                (TitleViewController.createRouteDocument createId currentUser now))
            else w.store
          sessions := w.sessions ++ [Session.enter created randomElement currentUser] }
      else none
  | .run i e ok =>
      w.sessions[i]?.bind fun s => (s.perform w.store e ok).map fun (store, s') =>
        { store, sessions := w.sessions.set i s' }
  | .elsewhere wr => if wr.isElsewhere then some { w with store := w.store.apply wr } else none

/-- The system of all authoring runs. -/
def system : EventSystem World Event := ⟨step⟩

/-- No run has started, and no Content document has the field `id` empty. -/
structure Initial (w : World) : Prop where
  sessions : w.sessions = []
  idField_ne : ∀ {id d}, w.store.content.get id = some d → d.get "id" ≠ some (.string "")

/-- The empty database before any run. -/
def blank : World := ⟨.empty, []⟩

theorem initial_blank : blank.Initial := ⟨rfl, nofun⟩

/-- A title screen loads; the letters it draws are all the first one. -/
def enterTrip : Event := .enter "trip" (fun _ => ⟨0, by decide⟩) (some "a@b.c") 0 true

variable {w w' : World} {i : Nat} {e : Session.Event} {ok : Bool}

/-- What a reaction of a run does to the world. -/
theorem step_run (h : w.step (.run i e ok) = some w') :
    ∃ s r, w.sessions[i]? = some s ∧ s.react w.store e ok = some r ∧
      ("" ∈ r.documents ∧ w' = { w with sessions := w.sessions.set i s.abort } ∨
        "" ∉ r.documents ∧
          w' = ⟨w.store.applyAll r.writes, w.sessions.set i r.next⟩) := by
  obtain ⟨s, hs, hp⟩ := Option.bind_eq_some_iff.mp h
  obtain ⟨⟨st, s'⟩, hperform, rfl⟩ := Option.map_eq_some_iff.mp hp
  obtain ⟨r, hr, heq⟩ := Option.map_eq_some_iff.mp hperform
  refine ⟨s, r, hs, hr, ?_⟩
  by_cases hd : "" ∈ r.documents
  · rw [if_pos hd, Prod.mk.injEq] at heq
    obtain ⟨rfl, rfl⟩ := heq
    exact Or.inl ⟨hd, rfl⟩
  · rw [if_neg hd, Prod.mk.injEq] at heq
    obtain ⟨rfl, rfl⟩ := heq
    exact Or.inr ⟨hd, rfl⟩

end World

end Groute
