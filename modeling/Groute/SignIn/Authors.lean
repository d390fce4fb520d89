import Groute.SignIn.Device

/-!
# In whose name the device writes

A review is written when its button is pressed, a like only when the query of the press has
been answered; by then the details may be gone, the user logged out and somebody else logged
in.  Both carry the e-mail that `savedId` held at the press.

Every write comes from a press of its own, on the screen of the trip that it is about: the
positions in the run of the presses behind the writes and behind the likes on their way are
all different (`Device.Trace`).  Where no event separates the accounts, the e-mail is that of
the account that was signed in with Firebase Auth.
-/

namespace Groute

namespace Device

open ContentViewController (toggle writeReview clickLikeBtn likesDone)

/-- The two buttons that lead to writes. -/
def Event.isPress : Event → Bool
  | .writeReview _ _ | .clickLikeBtn => true
  | .app _ | .openContent _ | .back | .editReview _ | .okButton | .likes _ _ _ => false

/-- No event of the other screens separates the accounts. -/
def SameAccounts (d : Device) : Event → Prop
  | .app e => d.app.SameAccount e
  | .openContent _ | .back | .editReview _ | .writeReview _ _ | .okButton | .clickLikeBtn
  | .likes _ _ _ => True

/-- The query of a like finds likes of the e-mail that it asks for. -/
def Found (d : Device) : Event → Prop
  | .likes i _ (some documents) => ∀ like ∈ d.likes[i]?, ∀ document ∈ documents,
      document.2.get "email" = some (.string like.2)
  | .app _ | .openContent _ | .back | .editReview _ | .writeReview _ _ | .okButton | .clickLikeBtn
  | .likes _ _ none => True

instance (d : Device) (e : Event) : Decidable (d.Found e) :=
  match e with
  | .likes i _ (some documents) => inferInstanceAs (Decidable (∀ like ∈ d.likes[i]?,
      ∀ document ∈ documents, document.2.get "email" = some (.string like.2)))
  | .app _ | .openContent _ | .back | .editReview _ | .writeReview _ _ | .okButton | .clickLikeBtn
  | .likes _ _ none => inferInstanceAs (Decidable True)

/-- The `n`-th event of a run is `e`; it happens in state `b`, where the user sees the details
`vc` of a trip and `savedId` is `email`. -/
structure Pressed (d₀ : Device) (es : List Event) (n : Nat) (e : Event)
    (vc : ContentViewController) (email : String) (b : Device) : Prop where
  happens : es[n]? = some e
  runs : system.Runs d₀ (es.take n) b
  shown : b.shown false = some vc
  savedId : b.app.savedId = some email

/-- What comes of a press. -/
inductive Issues (vc : ContentViewController) (email : String) : Event → Write → Prop
  /-- A review, unless the text field is empty. -/
  | review (now : Date) (id : DocId) (h : vc.reviewTextField ≠ "") :
      Issues vc email (.writeReview now id)
        (.addSub .comment vc.contentId id
          (ContentViewController.comment vc.reviewTextField email now))
  /-- A like is added, or one that the query has found for the e-mail is deleted. -/
  | like (id : DocId) (documents : List (DocId × Document))
      (h : ∀ document ∈ documents, document.2.get "email" = some (.string email)) :
      Issues vc email .clickLikeBtn (toggle vc.contentId id email documents)

/-- The `n`-th event of a run is the press that the write comes from. -/
def Authored (d₀ : Device) (es : List Event) (n : Nat) (w : Write) : Prop :=
  ∃ e vc email b, Pressed d₀ es n e vc email b ∧ Issues vc email e w

/-- The `n`-th event of a run is the press of a like on its way. -/
def Asked (d₀ : Device) (es : List Event) (n : Nat) (like : DocId × String) : Prop :=
  ∃ vc b, Pressed d₀ es n .clickLikeBtn vc like.2 b ∧ vc.contentId = like.1

/-- What an event does to what has been written and to the likes on their way. -/
inductive Effect (d : Device) (e : Event) (d' : Device) : Prop
  /-- Nothing is new. -/
  | quiet (writes : d'.writes = d.writes) (likes : d'.likes.Sublist d.likes)
  /-- A review is written. -/
  | review (now : Date) (id : DocId) (vc : ContentViewController) (email : String)
      (he : e = .writeReview now id) (shown : d.shown false = some vc)
      (savedId : d.app.savedId = some email) (text : vc.reviewTextField ≠ "")
      (writes : d'.writes = d.writes.concat (.addSub .comment vc.contentId id
        (ContentViewController.comment vc.reviewTextField email now)))
      (likes : d'.likes = d.likes)
  /-- A like is on its way. -/
  | press (vc : ContentViewController) (email : String) (he : e = .clickLikeBtn)
      (shown : d.shown false = some vc) (savedId : d.app.savedId = some email)
      (writes : d'.writes = d.writes) (likes : d'.likes = d.likes ++ [(vc.contentId, email)])
  /-- Its query is answered. -/
  | like (i : Nat) (id contentId : DocId) (email : String) (documents : List (DocId × Document))
      (he : e = .likes i id (some documents)) (hi : d.likes[i]? = some (contentId, email))
      (writes : d'.writes = d.writes.concat (toggle contentId id email documents))
      (likes : d'.likes.Sublist (d.likes.eraseIdx i))

variable {d d' d₀ : Device} {e : Event} {es : List Event} {w : Write}
  {vc : ContentViewController} {email : String} {b : Device} {n : Nat} {like : DocId × String}
  {written : List (Nat × Write)} {waiting : List (Nat × DocId × String)}

/-- Forcing `savedId` for its own sake. -/
theorem force_same (d : Device) :
    (d.force fun _ => d).writes = d.writes ∧ (d.force fun _ => d).likes.Sublist d.likes := by
  rw [force]
  split
  · exact ⟨rfl, List.nil_sublist _⟩
  · exact ⟨rfl, List.Sublist.refl _⟩

/-- What an event does. -/
theorem step_effect (h : d.step e = some d') : Effect d e d' := by
  cases e with
  | app e =>
      obtain ⟨-, h⟩ := Option.ite_none_right_eq_some.mp h
      obtain ⟨a, -, rfl⟩ := Option.map_eq_some_iff.mp h
      refine .quiet rfl ?_
      rw [after]
      split
      · exact List.nil_sublist _
      · exact List.Sublist.refl _
  | openContent contentId =>
      obtain ⟨-, ⟨⟩⟩ := Option.ite_none_right_eq_some.mp h
      obtain ⟨hwrites, hlikes⟩ := force_same { d with content := some { contentId } }
      exact .quiet hwrites hlikes
  | back | editReview | okButton =>
      obtain ⟨vc, -, rfl⟩ := Option.map_eq_some_iff.mp h
      exact .quiet rfl (List.Sublist.refl _)
  | writeReview now id =>
      obtain ⟨vc, hvc, rfl⟩ := Option.map_eq_some_iff.mp h
      rw [writeReview, force]
      split
      · exact .quiet rfl (List.nil_sublist _)
      · next email hsaved =>
        split
        · exact .quiet rfl (List.Sublist.refl _)
        · next htext => exact .review now id vc email rfl hvc hsaved htext rfl rfl
  | clickLikeBtn =>
      obtain ⟨vc, hvc, rfl⟩ := Option.map_eq_some_iff.mp h
      rw [clickLikeBtn, ContentViewController.getExistLikeLocation, force]
      split
      · exact .quiet rfl (List.nil_sublist _)
      · next email hsaved => exact .press vc email rfl hvc hsaved rfl rfl
  | likes i id documents =>
      obtain ⟨⟨contentId, email⟩, hi, rfl⟩ := Option.map_eq_some_iff.mp h
      cases documents with
      | none => exact .quiet rfl (List.eraseIdx_sublist d.likes i)
      | some documents =>
          obtain ⟨hwrites, hlikes⟩ := force_same { d with
            likes := d.likes.eraseIdx i
            writes := d.writes.concat (toggle contentId id email documents) }
          exact .like i id contentId email documents rfl hi hwrites hlikes

/-! ## A press for each write -/

/-- A position in the run. -/
theorem Pressed.lt (h : Pressed d₀ es n e vc email b) : n < es.length :=
  (List.getElem?_eq_some_iff.mp h.happens).1

/-- More events. -/
theorem Pressed.append (h : Pressed d₀ es n e vc email b) (fs : List Event) :
    Pressed d₀ (es ++ fs) n e vc email b where
  happens := (List.getElem?_append_left h.lt).trans h.happens
  runs := by rw [List.take_append_of_le_length h.lt.le]; exact h.runs
  shown := h.shown
  savedId := h.savedId

/-- The press that happens now. -/
theorem pressed_last (h : system.Runs d₀ es d) (hshown : d.shown false = some vc)
    (hsaved : d.app.savedId = some email) : Pressed d₀ (es ++ [e]) es.length e vc email d where
  happens := List.getElem?_concat_length
  runs := by rw [List.take_left]; exact h
  shown := hshown
  savedId := hsaved

theorem Authored.lt (h : Authored d₀ es n w) : n < es.length := by
  obtain ⟨e, vc, email, b, hpressed, -⟩ := h
  exact hpressed.lt

theorem Authored.append (h : Authored d₀ es n w) (fs : List Event) :
    Authored d₀ (es ++ fs) n w := by
  obtain ⟨e, vc, email, b, hpressed, hissues⟩ := h
  exact ⟨e, vc, email, b, hpressed.append fs, hissues⟩

theorem Asked.lt (h : Asked d₀ es n like) : n < es.length := by
  obtain ⟨vc, b, hpressed, -⟩ := h
  exact hpressed.lt

theorem Asked.append (h : Asked d₀ es n like) (fs : List Event) : Asked d₀ (es ++ fs) n like := by
  obtain ⟨vc, b, hpressed, hid⟩ := h
  exact ⟨vc, b, hpressed.append fs, hid⟩

/-- What is known of the writes after a run: `written` lists them with the positions of their
presses, `waiting` so the likes on their way, and no position stands there twice. -/
structure Trace (d₀ : Device) (es : List Event) (d : Device) (written : List (Nat × Write))
    (waiting : List (Nat × DocId × String)) : Prop where
  runs : system.Runs d₀ es d
  writes : d.writes = d₀.writes ++ written.map Prod.snd
  likes : d.likes = waiting.map Prod.snd
  nodup : (written.map Prod.fst ++ waiting.map Prod.fst).Nodup
  authored : ∀ x ∈ written, Authored d₀ es x.1 x.2
  asked : ∀ x ∈ waiting, Asked d₀ es x.1 x.2
  count : d.writes.length + d.likes.length ≤ d₀.writes.length + es.countP Event.isPress

/-- The position of the next event is new. -/
theorem Trace.notMem_length (h : Trace d₀ es d written waiting) :
    es.length ∉ written.map Prod.fst ++ waiting.map Prod.fst := by
  intro hmem
  rcases List.mem_append.mp hmem with hmem | hmem
  · obtain ⟨x, hx, heq⟩ := List.mem_map.mp hmem
    exact Nat.ne_of_lt (h.authored x hx).lt heq
  · obtain ⟨x, hx, heq⟩ := List.mem_map.mp hmem
    exact Nat.ne_of_lt (h.asked x hx).lt heq

/-- The writes with a new one. -/
theorem Trace.authored_concat (h : Trace d₀ es d written waiting)
    (hw : Authored d₀ (es ++ [e]) n w) :
    ∀ x ∈ written ++ [(n, w)], Authored d₀ (es ++ [e]) x.1 x.2 := by
  intro x hx
  rcases List.mem_append.mp hx with hx | hx
  · exact (h.authored x hx).append [e]
  · rw [List.mem_singleton.mp hx]
    exact hw

/-- More events, and likes that are given up. -/
theorem Trace.quiet (h : Trace d₀ es d written waiting) (hd : d.step e = some d')
    (hwrites : d'.writes = d.writes) (hlikes : d'.likes.Sublist d.likes) :
    ∃ waiting', Trace d₀ (es ++ [e]) d' written waiting' := by
  have hcount := h.count
  have hlength := hlikes.length_le
  rw [h.likes] at hlikes
  obtain ⟨waiting', hsub, hwaiting'⟩ := List.sublist_map_iff.mp hlikes
  refine ⟨waiting', h.runs.snoc trivial hd, hwrites.trans h.writes, hwaiting', ?_, ?_, ?_, ?_⟩
  · exact h.nodup.sublist ((hsub.map Prod.fst).append_left _)
  · exact fun x hx => (h.authored x hx).append [e]
  · exact fun x hx => (h.asked x (hsub.subset hx)).append [e]
  · rw [hwrites, List.countP_append]
    omega

/-- A review is written at once. -/
theorem Trace.review (h : Trace d₀ es d written waiting) (hd : d.step e = some d')
    (he : e.isPress) (hw : Authored d₀ (es ++ [e]) es.length w)
    (hwrites : d'.writes = d.writes.concat w) (hlikes : d'.likes = d.likes) :
    Trace d₀ (es ++ [e]) d' (written ++ [(es.length, w)]) waiting where
  runs := h.runs.snoc trivial hd
  writes := by
    rw [hwrites, h.writes, List.concat_eq_append, List.map_append, List.append_assoc]
    rfl
  likes := hlikes.trans h.likes
  nodup := by
    rw [List.map_append, List.append_assoc]
    exact List.nodup_middle.mpr (List.nodup_cons.mpr ⟨h.notMem_length, h.nodup⟩)
  authored := h.authored_concat hw
  asked := fun x hx => (h.asked x hx).append [e]
  count := by
    have hcount := h.count
    rw [hwrites, hlikes, List.length_concat, List.countP_append, List.countP_cons_of_pos he]
    omega

/-- A press on the heart sends a like on its way. -/
theorem Trace.press (h : Trace d₀ es d written waiting) (hd : d.step e = some d')
    (he : e.isPress) (hlike : Asked d₀ (es ++ [e]) es.length like)
    (hwrites : d'.writes = d.writes) (hlikes : d'.likes = d.likes ++ [like]) :
    Trace d₀ (es ++ [e]) d' written (waiting ++ [(es.length, like)]) where
  runs := h.runs.snoc trivial hd
  writes := hwrites.trans h.writes
  likes := by
    rw [hlikes, h.likes, List.map_append]
    rfl
  nodup := by
    rw [List.map_append, ← List.append_assoc]
    exact List.nodup_append_comm.mp (List.nodup_cons.mpr ⟨h.notMem_length, h.nodup⟩)
  authored := fun x hx => (h.authored x hx).append [e]
  asked := by
    intro x hx
    rcases List.mem_append.mp hx with hx | hx
    · exact (h.asked x hx).append [e]
    · rw [List.mem_singleton.mp hx]
      exact hlike
  count := by
    have hcount := h.count
    rw [hwrites, hlikes, List.length_append, List.length_singleton, List.countP_append,
      List.countP_cons_of_pos he]
    omega

/-- The query of a like is answered: what its press has led to is written. -/
theorem Trace.answered {i : Nat} (h : Trace d₀ es d written waiting) (hd : d.step e = some d')
    (hi : d.likes[i]? = some like)
    (hissues : ∀ vc : ContentViewController, vc.contentId = like.1 →
      Issues vc like.2 .clickLikeBtn w)
    (hwrites : d'.writes = d.writes.concat w) (hlikes : d'.likes.Sublist (d.likes.eraseIdx i)) :
    ∃ written' waiting', Trace d₀ (es ++ [e]) d' written' waiting' := by
  have hcount := h.count
  have hlength := hlikes.length_le
  obtain ⟨hlt, -⟩ := List.getElem?_eq_some_iff.mp hi
  rw [List.length_eraseIdx_of_lt hlt] at hlength
  rw [h.likes, List.getElem?_map] at hi
  obtain ⟨⟨n, like⟩, hn, rfl⟩ := Option.map_eq_some_iff.mp hi
  obtain ⟨hlt', hget⟩ := List.getElem?_eq_some_iff.mp hn
  rw [h.likes, List.eraseIdx_map] at hlikes
  obtain ⟨waiting', hsub, hwaiting'⟩ := List.sublist_map_iff.mp hlikes
  have hperm : ((n, like) :: waiting.eraseIdx i).Perm waiting :=
    hget ▸ List.getElem_cons_eraseIdx_perm hlt'
  obtain ⟨vc, b, hpressed, hid⟩ := h.asked (n, like) (List.mem_of_getElem? hn)
  refine ⟨written ++ [(n, w)], waiting', h.runs.snoc trivial hd, ?_, hwaiting', ?_, ?_, ?_, ?_⟩
  · rw [hwrites, h.writes, List.concat_eq_append, List.map_append, List.append_assoc]
    rfl
  · rw [List.map_append, List.append_assoc]
    refine List.Nodup.sublist (((hsub.map Prod.fst).cons_cons n).append_left _) ?_
    exact ((hperm.map Prod.fst).append_left _).nodup_iff.mpr h.nodup
  · exact h.authored_concat ⟨_, vc, like.2, b, hpressed.append [e], hissues vc hid⟩
  · exact fun x hx => (h.asked x (List.eraseIdx_subset (hsub.subset hx))).append [e]
  · rw [hwrites, List.length_concat, List.countP_append]
    omega

/-- Every step keeps what is known. -/
theorem Trace.step (h : Trace d₀ es d written waiting) (hc : d.Found e)
    (hd : d.step e = some d') : ∃ written' waiting', Trace d₀ (es ++ [e]) d' written' waiting' := by
  rcases step_effect hd with ⟨hwrites, hlikes⟩ |
    ⟨now, id, vc, email, rfl, hshown, hsaved, htext, hwrites, hlikes⟩ |
    ⟨vc, email, rfl, hshown, hsaved, hwrites, hlikes⟩ |
    ⟨i, id, contentId, email, documents, rfl, hi, hwrites, hlikes⟩
  · exact ⟨written, h.quiet hd hwrites hlikes⟩
  · have hpressed := pressed_last (e := .writeReview now id) h.runs hshown hsaved
    exact ⟨_, _, h.review hd rfl ⟨_, vc, email, d, hpressed, .review now id htext⟩ hwrites hlikes⟩
  · have hpressed := pressed_last (e := .clickLikeBtn) h.runs hshown hsaved
    exact ⟨_, _, h.press hd rfl ⟨vc, d, hpressed, rfl⟩ hwrites hlikes⟩
  · refine h.answered hd hi (fun vc hid => ?_) hwrites hlikes
    subst hid
    exact .like id documents (hc _ hi)

/-! ## The account that is signed in -/

/-- The screens are stacked in order, and one account is signed in on the main screen. -/
def Consistent (d : Device) : Prop := d.app.WellStacked ∧ d.app.OneIdentity

theorem Consistent.crash (d : Device) : d.crash.Consistent :=
  ⟨.nil, by rintro ⟨⟩⟩

theorem Consistent.force {body : String → Device} (h : d.Consistent)
    (hbody : ∀ id, (body id).app = d.app) : (d.force body).Consistent := by
  rw [Device.force]
  split
  · exact .crash d
  · next id _ =>
    rw [Consistent, hbody id]
    exact h

/-- One step that separates no accounts. -/
theorem Consistent.step (h : d.Consistent) (hsame : d.SameAccounts e)
    (hd : d.step e = some d') : d'.Consistent := by
  cases e with
  | app e =>
      obtain ⟨-, hd⟩ := Option.ite_none_right_eq_some.mp hd
      obtain ⟨a, ha, rfl⟩ := Option.map_eq_some_iff.mp hd
      have hspec := App.step_spec h.1 ha
      exact ⟨hspec.wellStacked, (hspec.oneIdentity_iff h.2).mpr hsame⟩
  | openContent contentId =>
      obtain ⟨-, ⟨⟩⟩ := Option.ite_none_right_eq_some.mp hd
      exact Consistent.force (d := { d with content := _ }) h fun _ => rfl
  | back | editReview | okButton =>
      obtain ⟨vc, -, rfl⟩ := Option.map_eq_some_iff.mp hd
      exact h
  | writeReview now id =>
      obtain ⟨vc, -, rfl⟩ := Option.map_eq_some_iff.mp hd
      refine h.force fun _ => ?_
      split <;> rfl
  | clickLikeBtn =>
      obtain ⟨vc, -, rfl⟩ := Option.map_eq_some_iff.mp hd
      exact h.force fun _ => rfl
  | likes i id documents =>
      obtain ⟨⟨contentId, email⟩, -, rfl⟩ := Option.map_eq_some_iff.mp hd
      cases documents with
      | none => exact h
      | some documents =>
          exact Consistent.force (d := { d with likes := _, writes := _ }) h fun _ => rfl

theorem Start.consistent (h : d.Start) : d.Consistent := by
  rw [Consistent, App.WellStacked, App.OneIdentity, h.app.stack]
  exact ⟨.nil, by rintro ⟨⟩⟩

/-- Who sees the details of a trip is signed in. -/
theorem Consistent.currentUser (h : d.Consistent) (hshown : d.shown false = some vc)
    (hsaved : d.app.savedId = some email) : d.app.currentUser = some email := by
  obtain ⟨htop, -⟩ := Option.ite_none_right_eq_some.mp hshown
  exact (App.same_iff hsaved).mp (h.2 (List.mem_of_mem_head? htop))

/-- **In whose name.**  Every write that a run issues comes from a press of its own, on the
details of the trip that it is about, and carries the e-mail that was stored then; a like that
is deleted was found for that e-mail.  Writes and likes on their way are never more than the
presses; and if no event separates the accounts, the e-mail is that of the account that was
signed in at the press. -/
theorem steps_authored (h₀ : d₀.Start) (h : system.Steps Found d₀ es d) :
    (∃ written : List (Nat × Write), d.writes = d₀.writes ++ written.map Prod.snd ∧
      (written.map Prod.fst).Nodup ∧ ∀ x ∈ written, ∃ e vc email b,
        Pressed d₀ es x.1 e vc email b ∧ Issues vc email e x.2 ∧
        (system.Steps SameAccounts d₀ es d → b.app.currentUser = some email)) ∧
    d.writes.length + d.likes.length ≤ d₀.writes.length + es.countP Event.isPress := by
  have hstart : Trace d₀ [] d₀ [] [] :=
    ⟨.nil d₀, (List.append_nil _).symm, h₀.likes, .nil, by simp, by simp, by simp [h₀.likes]⟩
  obtain ⟨written, waiting, htrace⟩ : ∃ written waiting, Trace d₀ es d written waiting := by
    refine h.invariant_history (I := fun es d => ∃ written waiting, Trace d₀ es d written waiting)
      ?_ ⟨[], [], hstart⟩
    rintro fs d e d' ⟨written, waiting, htrace⟩ hc hd
    exact htrace.step hc hd
  refine ⟨⟨written, htrace.writes, htrace.nodup.of_append_left, fun x hx => ?_⟩, htrace.count⟩
  obtain ⟨e, vc, email, b, hpressed, hissues⟩ := htrace.authored x hx
  refine ⟨e, vc, email, b, hpressed, hissues, fun hsame => ?_⟩
  have hconsistent : b.Consistent := hsame.forall_prefix (fun hI hC hd => hI.step hC hd)
    h₀.consistent (List.take_prefix _ es) hpressed.runs
  exact hconsistent.currentUser hpressed.shown hpressed.savedId

instance (d : Device) (e : Event) : Decidable (d.SameAccounts e) :=
  match e with
  | .app e => inferInstanceAs (Decidable (d.app.SameAccount e))
  | .openContent _ | .back | .editReview _ | .writeReview _ _ | .okButton | .clickLikeBtn
  | .likes _ _ _ => inferInstanceAs (Decidable True)

/-- A user logs in, opens a trip, sends a review and likes the trip. -/
def reviewed : List Event := App.loggedIn.map .app ++
  [.openContent "trip", .editReview "good", .writeReview 0 "review", .okButton, .clickLikeBtn,
    .likes 0 "like" (some [])]

theorem reviewed_authored : ∃ (d : Device) (written : List (Nat × Write)),
    system.Steps Found installed reviewed d ∧ d.writes = written.map Prod.snd ∧
    written.length = 2 ∧ (written.map Prod.fst).Nodup ∧
    ∀ x ∈ written, ∃ e vc email b, Pressed installed reviewed x.1 e vc email b ∧
      Issues vc email e x.2 ∧ b.app.currentUser = some email := by
  obtain ⟨d, hrun, hd⟩ := EventSystem.exists_steps_of_exec system
    (fun d e => d.Found e ∧ d.SameAccounts e) installed reviewed
    (fun d => d.writes.length = 2) (by decide)
  have hfound : system.Steps Found installed reviewed d := hrun.mono fun _ _ hc => hc.1
  have hsame : system.Steps SameAccounts installed reviewed d := hrun.mono fun _ _ hc => hc.2
  obtain ⟨⟨written, hwrites, hnodup, hauthored⟩, -⟩ := steps_authored start_installed hfound
  have hwrites : d.writes = written.map Prod.snd := hwrites
  have hlength : written.length = 2 := by
    rw [← of_decide_eq_true hd, hwrites, List.length_map]
  refine ⟨d, written, hfound, hwrites, hlength, hnodup, fun x hx => ?_⟩
  obtain ⟨e, vc, email, b, hpressed, hissues, hcurrent⟩ := hauthored x hx
  exact ⟨e, vc, email, b, hpressed, hissues, hcurrent hsame⟩

end Device

end Groute
