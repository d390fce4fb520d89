import Mathlib.Data.Fintype.EquivFin
import Mathlib.Data.List.Dedup
import Mathlib.Data.List.Rotate
import Groute.Content.Controllers
import Groute.Lib.EventSystem

/-!
# Likes

`ContentViewController.clickLikeBtn` asks for the likes of the user and, when the
answer comes, deletes the first one or adds one if there is none.  Nothing keeps
the user from pressing the button again before the write has been carried out.

`Likes` is one trip with all presses of the button, by any number of users and
devices, that are on their way.  A press goes through four stages, and the
stages of different presses interleave in any order: the query is issued, it is
evaluated, its handler runs on what was found then and issues a write, the write
is carried out.

At most one like per user is kept as long as no handler acts on the answer that a
user has no like while the user has one or one is being added (`Likes.Settled`).
Once a handler does, two likes are only a matter of time
(`Likes.exists_steps_of_not_settled`).
-/

namespace Groute

open ContentViewController

/-- The likes of one trip, and the presses of the button on their way. -/
structure Likes where
  store : Store
  contentId : DocId
  /-- The users whose query has not been evaluated. -/
  asked : List String := []
  /-- What was found for a user by the queries whose handler has not run. -/
  answers : List (String × List (DocId × Document)) := []
  /-- The users for whom a like is being added. -/
  adds : List String := []
  /-- The likes that are being deleted. -/
  deletes : List DocId := []

namespace Likes

/-- What can happen. -/
inductive Event where
  /-- A user presses the button. -/
  | clickLikeBtn (connectingEmail : String)
  /-- A query is evaluated; Firestore lists the `i`-th result first. -/
  | evaluated (connectingEmail : String) (i : Nat) (ok : Bool)
  /-- The handler runs on the `n`-th answer. -/
  | answered (n : Nat)
  /-- A like is added under a fresh identifier. -/
  | added (connectingEmail : String) (id : DocId) (ok : Bool)
  /-- A like is deleted. -/
  | deleted (id : DocId) (ok : Bool)
deriving DecidableEq

/-- The state after an event.  A query or a write that fails has no effect. -/
def step (l : Likes) : Event → Option Likes
  | .clickLikeBtn connectingEmail => some { l with asked := connectingEmail :: l.asked }
  | .evaluated connectingEmail i ok =>
      let documents := (checkLike l.store l.contentId connectingEmail).rotate i
      if connectingEmail ∈ l.asked then
        some { l with
          asked := l.asked.erase connectingEmail
          answers := if ok then l.answers ++ [(connectingEmail, documents)] else l.answers }
      else none
  | .answered n => l.answers[n]?.map fun (connectingEmail, documents) =>
      match getExistLikeLocationDone documents with
      | some id => { l with answers := l.answers.eraseIdx n, deletes := id :: l.deletes }
      | none => { l with answers := l.answers.eraseIdx n, adds := connectingEmail :: l.adds }
  | .added connectingEmail id ok =>
      if connectingEmail ∈ l.adds ∧ ((l.store.sub .favorite l.contentId).get id).isNone then
        some { l with
          store := if ok then
              l.store.apply (.addSub .favorite l.contentId id (favorite connectingEmail))
            else l.store
          adds := l.adds.erase connectingEmail }
      else none
  | .deleted id ok =>
      if id ∈ l.deletes then
        some { l with
          store := if ok then l.store.apply (.deleteSub .favorite l.contentId id) else l.store
          deletes := l.deletes.erase id }
      else none

/-- The likes of one trip. -/
def system : EventSystem Likes Event := ⟨step⟩

/-- No like is being added, every like names its user, and no user has two. -/
structure Start (l : Likes) : Prop where
  adds : l.adds = []
  email : ∀ d ∈ (l.store.sub .favorite l.contentId).docs, (d.2.string "email").isSome
  once : ∀ e, (checkLike l.store l.contentId e).length ≤ 1

/-- No user has two likes, and the number that `getLikeCount` shows is the number
of users with a like. -/
structure OncePerUser (l : Likes) : Prop where
  once : ∀ e, (checkLike l.store l.contentId e).length ≤ 1
  count : ∃ likes, getLikeCountDone (l.store.sub .favorite l.contentId).docs = some likes ∧
    likes.length = (likes.map Favorite.email).dedup.length

/-- A handler to which no like of the user was given runs only while the user has
none and none is being added. -/
def Settled (l : Likes) : Event → Prop
  | .answered n => ∀ answer ∈ l.answers[n]?, answer.2 = [] →
      checkLike l.store l.contentId answer.1 = [] ∧ answer.1 ∉ l.adds
  | .clickLikeBtn _ | .evaluated _ _ _ | .added _ _ _ | .deleted _ _ => True

/-- Likes and likes on their way, taken together, are at most one for each user. -/
structure Inv (l : Likes) : Prop where
  email : ∀ d ∈ (l.store.sub .favorite l.contentId).docs, (d.2.string "email").isSome
  once : ∀ e, (checkLike l.store l.contentId e).length + l.adds.count e ≤ 1

variable {l l' l₀ : Likes} {e : Event} {es : List Event}

theorem Start.inv (h : l.Start) : l.Inv where
  email := h.email
  once e := by simpa [h.adds] using h.once e

/-- A handler that adds a like was given none. -/
theorem getExistLikeLocationDone_eq_none_iff {documents : List (DocId × Document)} :
    getExistLikeLocationDone documents = none ↔ documents = [] := by
  cases documents <;> simp [getExistLikeLocationDone]

/-- What the handler of an answer does. -/
theorem step_answered {n : Nat} (hl : l.step (.answered n) = some l') :
    ∃ connectingEmail documents, l.answers[n]? = some (connectingEmail, documents) ∧
      ((documents ≠ [] ∧ ∃ id, l' =
          { l with answers := l.answers.eraseIdx n, deletes := id :: l.deletes }) ∨
        documents = [] ∧ l' =
          { l with answers := l.answers.eraseIdx n, adds := connectingEmail :: l.adds }) := by
  obtain ⟨⟨connectingEmail, documents⟩, hanswer, rfl⟩ := Option.map_eq_some_iff.mp hl
  refine ⟨connectingEmail, documents, hanswer, ?_⟩
  cases hlocation : getExistLikeLocationDone documents with
  | some id =>
      refine .inl ⟨fun hnil => ?_, id, by simp only [hlocation]⟩
      cases hlocation.symm.trans (getExistLikeLocationDone_eq_none_iff.mpr hnil)
  | none =>
      have hnil := getExistLikeLocationDone_eq_none_iff.mp hlocation
      exact .inr ⟨hnil, by simp only [hlocation]⟩

/-- A new like is listed for its user. -/
theorem checkLike_addSub {st : Store} {contentId id : DocId} {connectingEmail e : String}
    (h : (st.sub .favorite contentId).get id = none) :
    checkLike (st.apply (.addSub .favorite contentId id (favorite connectingEmail))) contentId e =
      if connectingEmail = e then (id, favorite connectingEmail) :: checkLike st contentId e
      else checkLike st contentId e := by
  rw [checkLike, Store.sub_addSub, Collection.query_set h]
  simp [checkLike, favorite, Document.get, Document.ofFields]

/-- A deleted like is not listed any more. -/
theorem checkLike_deleteSub (st : Store) (contentId id : DocId) (e : String) :
    checkLike (st.apply (.deleteSub .favorite contentId id)) contentId e =
      (checkLike st contentId e).filter fun d => d.1 ≠ id := by
  rw [checkLike, Store.sub_deleteSub, Collection.query_erase]
  rfl

/-- Adding a like counts for its user. -/
theorem length_checkLike_add {st : Store} {contentId id : DocId} {connectingEmail e : String}
    (h : (st.sub .favorite contentId).get id = none) :
    (checkLike (st.apply (.addSub .favorite contentId id (favorite connectingEmail))) contentId
      e).length = (checkLike st contentId e).length + if connectingEmail = e then 1 else 0 := by
  rw [checkLike_addSub h]
  split <;> rfl

/-- Deleting a like counts for nobody. -/
theorem length_checkLike_delete (st : Store) (contentId id : DocId) (e : String) :
    (checkLike (st.apply (.deleteSub .favorite contentId id)) contentId e).length ≤
      (checkLike st contentId e).length := by
  rw [checkLike_deleteSub]
  exact List.length_filter_le _ _

/-- A new like names its user. -/
theorem isSome_email_addSub {st : Store} {contentId : DocId}
    (h : ∀ d ∈ (st.sub .favorite contentId).docs, (d.2.string "email").isSome) (id : DocId)
    (connectingEmail : String) :
    ∀ d ∈ ((st.apply (.addSub .favorite contentId id (favorite connectingEmail))).sub .favorite
      contentId).docs, (d.2.string "email").isSome := by
  intro d hd
  rw [Store.sub_addSub] at hd
  rcases Collection.mem_docs_set hd with rfl | hd
  · rfl
  · exact h d hd

/-- A like that is left named its user before. -/
theorem isSome_email_deleteSub {st : Store} {contentId : DocId}
    (h : ∀ d ∈ (st.sub .favorite contentId).docs, (d.2.string "email").isSome) (id : DocId) :
    ∀ d ∈ ((st.apply (.deleteSub .favorite contentId id)).sub .favorite contentId).docs,
      (d.2.string "email").isSome := by
  intro d hd
  rw [Store.sub_deleteSub] at hd
  exact h d (Collection.mem_docs_erase hd)

/-- An add is carried out. -/
theorem Inv.added {connectingEmail : String} {id : DocId} (h : l.Inv)
    (hadd : connectingEmail ∈ l.adds)
    (hfresh : (l.store.sub .favorite l.contentId).get id = none) :
    Inv { l with
      store := l.store.apply (.addSub .favorite l.contentId id (favorite connectingEmail))
      adds := l.adds.erase connectingEmail } where
  email := isSome_email_addSub h.email id connectingEmail
  once e := by
    have hcount := h.once e
    rw [length_checkLike_add hfresh]
    by_cases he : connectingEmail = e
    · subst he
      have hpos := List.count_pos_iff.mpr hadd
      rw [if_pos rfl, List.count_erase_self]
      omega
    · rw [if_neg he, List.count_erase_of_ne (Ne.symm he)]
      omega

/-- One step keeps the invariant. -/
theorem Inv.step (h : l.Inv) (hc : l.Settled e) (hl : l.step e = some l') : l'.Inv := by
  cases e with
  | clickLikeBtn connectingEmail =>
      cases hl
      exact { h with }
  | evaluated connectingEmail i ok =>
      obtain ⟨-, ⟨⟩⟩ := Option.ite_none_right_eq_some.mp hl
      exact { h with }
  | answered n =>
      obtain ⟨connectingEmail, documents, hanswer, ⟨-, id, rfl⟩ | ⟨hnil, rfl⟩⟩ := step_answered hl
      · exact { h with }
      · obtain ⟨hnone, hadds⟩ := hc _ hanswer hnil
        refine { h with once := fun e => ?_ }
        by_cases he : e = connectingEmail
        · rw [he, hnone, List.count_cons_self, List.count_eq_zero_of_not_mem hadds]
          exact Nat.le_refl 1
        · rw [List.count_cons_of_ne (Ne.symm he)]
          exact h.once e
  | added connectingEmail id ok =>
      obtain ⟨⟨hadd, hfresh⟩, ⟨⟩⟩ := Option.ite_none_right_eq_some.mp hl
      cases ok with
      | true => exact h.added hadd (Option.isNone_iff_eq_none.mp hfresh)
      | false =>
          refine { h with once := fun e => (Nat.add_le_add_left ?_ _).trans (h.once e) }
          exact List.erase_sublist.count_le e
  | deleted id ok =>
      obtain ⟨-, ⟨⟩⟩ := Option.ite_none_right_eq_some.mp hl
      cases ok with
      | true =>
          exact {
            email := isSome_email_deleteSub h.email id
            once := fun e =>
              (Nat.add_le_add_right (length_checkLike_delete _ _ _ _) _).trans (h.once e) }
      | false => exact { h with }

/-- Likes that name their users are all read, and each user is listed once for
each like. -/
theorem getLikeCountDone_eq {documents : List (DocId × Document)}
    (h : ∀ d ∈ documents, (d.2.string "email").isSome) :
    ∃ likes, getLikeCountDone documents = some likes ∧
      ∀ e, (likes.map Favorite.email).count e =
        (documents.filter fun d => d.2.get "email" = some (.string e)).length := by
  induction documents with
  | nil => exact ⟨[], rfl, fun _ => rfl⟩
  | cons d documents ih =>
      obtain ⟨likes, hlikes, hcount⟩ := ih fun d hd => h d (List.mem_cons_of_mem _ hd)
      obtain ⟨email, hemail⟩ := Option.isSome_iff_exists.mp (h d List.mem_cons_self)
      refine ⟨⟨email⟩ :: likes, ?_, fun e => ?_⟩
      · rw [getLikeCountDone] at hlikes ⊢
        rw [List.mapM_cons, getLike, hemail, hlikes]
        rfl
      · have hget := Document.string_eq_some_iff.mp hemail
        rw [List.map_cons, List.count_cons, hcount, List.filter_cons, hget]
        by_cases he : email = e <;> simp [he]

/-- What the invariant says about the likes alone. -/
theorem Inv.oncePerUser (h : l.Inv) : l.OncePerUser where
  once e := (Nat.le_add_right _ _).trans (h.once e)
  count := by
    obtain ⟨likes, hlikes, hcount⟩ := getLikeCountDone_eq h.email
    refine ⟨likes, hlikes, ?_⟩
    have hnodup : (likes.map Favorite.email).Nodup := by
      rw [List.nodup_iff_count_le_one]
      intro e
      rw [hcount]
      exact (Nat.le_add_right _ _).trans (h.once e)
    rw [List.Nodup.dedup hnodup, List.length_map]

/-- **Once per user.**  In a run in which no handler adds a like of a user who has
one or for whom one is being added, no user ever has two likes. -/
theorem steps_oncePerUser (h₀ : l₀.Start) (h : system.Steps Settled l₀ es l) :
    l.OncePerUser :=
  (h.invariant (fun hI hc hl => Inv.step hI hc hl) h₀.inv).oncePerUser

/-- Likes of one user that are there or being added become likes that are there. -/
theorem exists_steps_added {connectingEmail : String} {n : Nat}
    (hcount : l.adds.count connectingEmail = n)
    (htwo : 2 ≤ (checkLike l.store l.contentId connectingEmail).length + n) :
    ∃ es l', (∀ e ∈ es, ∃ id, e = .added connectingEmail id true) ∧ system.Runs l es l' ∧
      ¬l'.OncePerUser := by
  induction n generalizing l with
  | zero =>
      refine ⟨[], l, nofun, .nil l, fun h => ?_⟩
      have honce := h.once connectingEmail
      omega
  | succ n ih =>
      obtain ⟨id, hid⟩ := Infinite.exists_notMem_finset
        ((l.store.sub .favorite l.contentId).docs.map Prod.fst).toFinset
      have hfresh : (l.store.sub .favorite l.contentId).get id = none := by
        refine Collection.get_eq_none_iff.mpr fun d hd => hid ?_
        exact List.mem_toFinset.mpr (List.mem_map_of_mem hd)
      have hmem : connectingEmail ∈ l.adds := List.count_pos_iff.mp (by omega)
      have hstep : system.step l (.added connectingEmail id true) = some { l with
          store := l.store.apply (.addSub .favorite l.contentId id (favorite connectingEmail))
          adds := l.adds.erase connectingEmail } :=
        if_pos ⟨hmem, Option.isNone_iff_eq_none.mpr hfresh⟩
      obtain ⟨es, l', hes, hrun, htwo'⟩ := ih (l := { l with
          store := l.store.apply (.addSub .favorite l.contentId id (favorite connectingEmail))
          adds := l.adds.erase connectingEmail })
        (by rw [List.count_erase_self, hcount]; rfl)
        (by rw [length_checkLike_add hfresh, if_pos rfl]; omega)
      refine ⟨.added connectingEmail id true :: es, l', fun e he => ?_, .cons trivial hstep hrun,
        htwo'⟩
      rcases List.mem_cons.mp he with rfl | he
      · exact ⟨id, rfl⟩
      · exact hes e he

/-- The condition excludes nothing else: after a step that violates it, carrying out
adds that are under way leads to two likes of one user. -/
theorem exists_steps_of_not_settled (hc : ¬l.Settled e) (hl : l.step e = some l') :
    ∃ connectingEmail es l'', (∀ e ∈ es, ∃ id, e = .added connectingEmail id true) ∧
      system.Runs l' es l'' ∧ ¬l''.OncePerUser := by
  cases e with
  | clickLikeBtn | evaluated | added | deleted => exact absurd trivial hc
  | answered n =>
      obtain ⟨connectingEmail, documents, hanswer, hl'⟩ := step_answered hl
      have hbusy : documents = [] ∧ (checkLike l.store l.contentId connectingEmail ≠ [] ∨
          connectingEmail ∈ l.adds) := by
        simpa [Settled, hanswer, imp_iff_not_or, or_comm] using hc
      obtain ⟨hnil, hbusy⟩ := hbusy
      obtain ⟨-, rfl⟩ := hl'.resolve_left fun hfound => hfound.1 hnil
      have htwo : 1 ≤ (checkLike l.store l.contentId connectingEmail).length +
          l.adds.count connectingEmail := by
        rcases hbusy with hliked | hadding
        · have := List.length_pos_of_ne_nil hliked
          omega
        · have := List.count_pos_iff.mpr hadding
          omega
      refine ⟨connectingEmail, exists_steps_added rfl ?_⟩
      rw [List.count_cons_self]
      exact Nat.succ_le_succ htwo

/-- A trip without likes. -/
def unliked : Likes where
  store := .empty
  contentId := "trip"

theorem start_unliked : unliked.Start := ⟨rfl, nofun, fun _ => Nat.zero_le 1⟩

instance (l : Likes) (e : Event) : Decidable (l.Settled e) :=
  match e with
  | .answered n => decidable_of_iff
      (∀ answer ∈ l.answers[n]?, answer.2.isEmpty →
        (checkLike l.store l.contentId answer.1).isEmpty ∧ answer.1 ∉ l.adds)
      (by simp only [List.isEmpty_iff]; rfl)
  | .clickLikeBtn _ | .evaluated _ _ _ | .added _ _ _ | .deleted _ _ =>
      inferInstanceAs (Decidable True)

/-- A user likes the trip and, once the like is there, takes it back. -/
def toggled : List Event :=
  [.clickLikeBtn "a@b.c", .evaluated "a@b.c" 0 true, .answered 0, .added "a@b.c" "like" true,
    .clickLikeBtn "a@b.c", .evaluated "a@b.c" 0 true, .answered 0, .deleted "like" true]

theorem toggled_oncePerUser : ∃ l, system.Steps Settled unliked toggled l ∧ l.OncePerUser := by
  obtain ⟨l, hrun, -⟩ := EventSystem.exists_steps_of_exec system Settled unliked
    toggled (fun _ => true) (by decide)
  exact ⟨l, hrun, steps_oncePerUser start_unliked hrun⟩

/-- The button is pressed twice, and both queries are evaluated before the first like
is there. -/
theorem exists_two_likes : ¬∀ {l₀ l : Likes} {es : List Event}, l₀.Start →
    system.Runs l₀ es l → l.OncePerUser := by
  intro hall
  obtain ⟨l, hrun, hl⟩ := EventSystem.exists_runs_of_exec system unliked
    [.clickLikeBtn "a@b.c", .clickLikeBtn "a@b.c", .evaluated "a@b.c" 0 true,
      .evaluated "a@b.c" 0 true, .answered 0, .added "a@b.c" "like" true, .answered 0,
      .added "a@b.c" "again" true]
    (fun l => (checkLike l.store l.contentId "a@b.c").length = 2) (by decide)
  have honce := (hall start_unliked hrun).once "a@b.c"
  rw [of_decide_eq_true hl] at honce
  exact absurd honce (by decide)

end Likes

end Groute
