import Groute.Content.Controllers
import Groute.SignIn.Identity

/-!
# Where `savedId` is forced

The nickname screen and `ContentViewController` force the entry `savedId` of the
user defaults, which three handlers store and logging out clears.  `Device` adds
the details of a trip to `App`: they are pushed over the tabs of the main screen,
so that the settings are out of reach while they are shown, but what they have
asked for may be answered when they are long gone.  Queries whose handlers only
fill the screen are left out.

Nobody ever reaches one of these places without an account having been stored:
what is missing there, a logout has taken away (`App.Fresh`).  So `savedId` is
present wherever it is forced exactly if nothing forces it between a logout and
the next login.
-/

namespace Groute

/-- The details of a trip, with the text field and the alert that thanks for a
review. -/
structure ContentViewController where
  contentId : DocId
  reviewTextField : String := ""
  alert : Bool := false

/-- One device with the details of a trip. -/
structure Device where
  app : App
  /-- The details that are pushed over the tabs. -/
  content : Option ContentViewController := none
  /-- The queries of `getExistLikeLocation` on their way, each with its trip and
  its user. -/
  likes : List (DocId × String) := []
  /-- What has been passed to Firestore. -/
  writes : List Write := []
  /-- The user has logged out, and no account has been stored since. -/
  loggedOut : Bool := false

namespace App

/-- What an event stores as `savedId`, if it does. -/
def saves (a : App) : Event → Option (Option String)
  | .complete i => (a.pending.calls[i]?.bind a.stored).map some
  | .tap .okButton =>
      match a.stack with
      | .signUpAlert k _ _ :: _ => some (some (a.signup k).emailTextField)
      | _ => none
  | .tap .yesButton => if a.stack.head? = some .logoutAlert then some none else none
  | _ => none

/-- How often an event forces `savedId` on the nickname screen. -/
def forces (a : App) : Event → Nat
  | .tap .setNickname => 1
  | .getDocuments i true =>
      ((a.pending.queries[i]?).map fun query => (a.usersWithEmail query.2).length).getD 0
  | _ => 0

end App

namespace Device

/-- A trap ends the process. -/
def crash (d : Device) : Device := { d with app := d.app.crash, content := none, likes := [] }

/-- Go on with `UserDefaults.standard.value(forKey: "savedId")!`. -/
def force (d : Device) (body : String → Device) : Device :=
  match d.app.savedId with
  | none => d.crash
  | some savedId => body savedId

end Device

namespace ContentViewController

/-- The answer only colours the button. -/
def checkLikeImage (d : Device) : Device := d.force fun _ => d

def getLikeCount (d : Device) : Device := checkLikeImage d

def viewDidLoad (d : Device) : Device := getLikeCount d

def getExistLikeLocation (d : Device) (vc : ContentViewController) : Device :=
  d.force fun connectingEmail => { d with likes := d.likes ++ [(vc.contentId, connectingEmail)] }

def clickLikeBtn (d : Device) (vc : ContentViewController) : Device := getExistLikeLocation d vc

/-- `savedId` is forced before the text is looked at. -/
def writeReview (d : Device) (vc : ContentViewController) (now : Date) (id : DocId) : Device :=
  d.force fun connectedEmail =>
    if vc.reviewTextField = "" then d
    else { d with
      writes := d.writes.concat
        (.addSub .comment vc.contentId id (comment vc.reviewTextField connectedEmail now))
      content := some { vc with reviewTextField := "", alert := true } }

/-- The write of the handler of `getExistLikeLocation`. -/
def toggle (contentId id : DocId) (connectingEmail : String)
    (documents : List (DocId × Document)) : Write :=
  match getExistLikeLocationDone documents with
  | some like => .deleteSub .favorite contentId like
  | none => .addSub .favorite contentId id (favorite connectingEmail)

/-- The handler of `getExistLikeLocation`; an added like gets the identifier `id`. -/
def likesDone (d : Device) (contentId id : DocId) (connectingEmail : String) :
    Option (List (DocId × Document)) → Device
  | none => d
  | some documents =>
      getLikeCount { d with
        writes := d.writes.concat (toggle contentId id connectingEmail documents) }

end ContentViewController

namespace Device

open ContentViewController (clickLikeBtn likesDone viewDidLoad writeReview)

/-- What can happen. -/
inductive Event where
  | app (e : App.Event)
  /-- The segue of the main list to the details of a trip. -/
  | openContent (contentId : DocId)
  /-- Back to the main list. -/
  | back
  | editReview (reviewTextField : String)
  | writeReview (now : Date) (id : DocId)
  /-- The button of the alert. -/
  | okButton
  | clickLikeBtn
  /-- The query of the `i`-th press of the like button is answered or fails. -/
  | likes (i : Nat) (id : DocId) (documents : Option (List (DocId × Document)))

/-- The details of a trip that the user sees and can use. -/
def shown (d : Device) (alert : Bool) : Option ContentViewController :=
  if d.app.stack.head? = some .navigation then d.content.filter (·.alert = alert) else none

/-- The user taps a screen that is not covered by the details of a trip. -/
def reachable (d : Device) : App.Event → Bool
  | .tap _ => ¬(d.app.stack.head? = some .navigation ∧ d.content.isSome)
  | _ => true

/-- The device after an event of the other screens has led to `a`. -/
def after (d : Device) (e : App.Event) (a : App) : Device :=
  { d with
    app := a
    content := if a.ended e then none else d.content
    likes := if a.ended e then [] else d.likes
    loggedOut := ((d.app.saves e).map Option.isNone).getD d.loggedOut }

/-- The state after an event. -/
def step (d : Device) : Event → Option Device
  | .app e => if d.reachable e then (d.app.step e).map (d.after e) else none
  | .openContent contentId =>
      if d.app.stack.head? = some .navigation ∧ d.content = none then
        some (viewDidLoad { d with content := some { contentId } })
      else none
  | .back => (d.shown false).map fun _ => { d with content := none }
  | .editReview reviewTextField =>
      (d.shown false).map fun vc => { d with content := some { vc with reviewTextField } }
  | .writeReview now id => (d.shown false).map fun vc => writeReview d vc now id
  | .okButton => (d.shown true).map fun vc => { d with content := some { vc with alert := false } }
  | .clickLikeBtn => (d.shown false).map fun vc => clickLikeBtn d vc
  | .likes i id documents => d.likes[i]?.map fun (contentId, connectingEmail) =>
      likesDone { d with likes := d.likes.eraseIdx i } contentId id connectingEmail documents

/-- One device. -/
def system : EventSystem Device Event := ⟨step⟩

/-- How often an event forces `savedId`. -/
def forces (d : Device) : Event → Nat
  | .app e => d.app.forces e
  | .openContent _ | .writeReview _ _ | .clickLikeBtn | .likes _ _ (some _) => 1
  | .back | .editReview _ | .okButton | .likes _ _ none => 0

/-- `savedId` is present wherever the event forces it. -/
def Present (d : Device) (e : Event) : Prop := 0 < d.forces e → d.app.savedId.isSome

/-- The event does not force `savedId` after a logout. -/
def LoggedIn (d : Device) (e : Event) : Prop := 0 < d.forces e → d.loggedOut = false

end Device

namespace App

variable {a a' : App} {presenter scene top : Scene} {rest : List Scene} {e : Event}

theorem savedId_setNickname (k : Nat) :
    (SetNicknameViewController.setNickname a k).savedId = a.savedId := by
  rw [SetNicknameViewController.setNickname]
  split
  · rfl
  · exact savedId_present

theorem savedId_getDocumentDone (document : Option Document) :
    (LoginViewController.getDocumentDone a document).savedId = a.savedId := by
  cases document with
  | none => rfl
  | some document =>
      rw [LoginViewController.getDocumentDone]
      split <;> exact savedId_present

/-- A tap on the topmost screen stores what `saves` says. -/
theorem savedId_react {t : Tap} (hstack : a.stack = top :: rest)
    (h : a.react rest top t = some a') : a'.savedId = (a.saves (.tap t)).getD a.savedId := by
  revert h
  fun_cases react a rest top t <;> rintro ⟨⟩
  case case1 | case2 => rfl
  case case3 => exact Quiet.signUpButton.savedId
  case case4 k => exact (Quiet.signupClick k).savedId
  case case5 => rfl
  case case6 k => exact savedId_setNickname k
  case case7 => exact Quiet.appearAlert.savedId
  case case8 => rw [saves, hstack]; rfl
  case case9 =>
    rw [saves, hstack, if_neg (by simp)]
    exact Quiet.moveToNickView.savedId
  case case10 => rfl
  case case11 k _ _ =>
    rw [saves, hstack]
    exact savedId_okButton k
  case case12 =>
    rw [saves, hstack, List.head?_cons, if_pos rfl]
    exact savedId_dismiss
  case case13 => rfl

/-- The handler of a call to Firebase Auth stores what `saves` says. -/
theorem savedId_complete {i : Nat} (h : a.step (.complete i) = some a') :
    a'.savedId = (a.saves (.complete i)).getD a.savedId := by
  obtain ⟨request, completion, error, hcall, rfl⟩ := step_complete h
  rw [saves, hcall]
  cases completion with
  | viewDidLoad getSavedidinfo => exact (Quiet.viewDidLoadDone getSavedidinfo).savedId
  | loginButtonClick =>
      cases error with
      | none => exact savedId_present
      | some error => exact (Quiet.loginButtonClickDone error).savedId
  | sign idToken => exact savedId_present
  | signUp k => exact (Quiet.signUpDone k error).savedId

/-- No event stores anything but what `saves` says. -/
theorem savedId_step (h : a.step e = some a') : a'.savedId = (a.saves e).getD a.savedId := by
  cases e with
  | launch => cases h; rfl
  | tap t =>
      obtain ⟨top, rest, hstack, h⟩ := step_tap h
      exact savedId_react hstack h
  | editLogin | editSignup | editNickname =>
      obtain ⟨-, ⟨⟩⟩ := Option.ite_none_right_eq_some.mp h
      rfl
  | sign user =>
      obtain ⟨-, ⟨⟩⟩ := Option.ite_none_right_eq_some.mp h
      rcases user with _ | ⟨idToken, email⟩ <;> rfl
  | authenticate i error =>
      obtain ⟨request, completion, -, rfl⟩ := step_authenticate h
      rfl
  | complete i => exact savedId_complete h
  | getDocument i ok =>
      obtain ⟨id, -, rfl⟩ := Option.map_eq_some_iff.mp h
      exact savedId_getDocumentDone _
  | setData i ok =>
      obtain ⟨⟨k, id, fields⟩, -, rfl⟩ := Option.map_eq_some_iff.mp h
      exact (Quiet.setDataDone k ok).savedId
  | getDocuments i ok =>
      obtain ⟨⟨k, email⟩, -, rfl⟩ := Option.map_eq_some_iff.mp h
      exact (Quiet.getDocumentsDone k _).savedId
  | updateData i ok =>
      obtain ⟨⟨id, fields⟩, -, rfl⟩ := Option.map_eq_some_iff.mp h
      rfl
  | others users => cases h; rfl

/-- The screens that are shown before anyone has logged in. -/
def early : Scene → Bool
  | .login | .signup _ | .alert _ _ | .signUpAlert _ _ _ => true
  | .setNickname _ | .navigation | .settingNicknameAlert | .logoutAlert => false

/-- Nothing is left of an account: no `savedId`, no screen behind the login, and
no request that was made with a `savedId`. -/
structure Fresh (a : App) : Prop where
  savedId : a.savedId = none
  early : ∀ s ∈ a.stack, early s
  calls : ∀ call ∈ a.pending.calls, ∀ id, call.completion ≠ .viewDidLoad (some id)
  lookUps : a.pending.lookUps = []
  queries : a.pending.queries = []

namespace Fresh

theorem crash (h : a.Fresh) : a.crash.Fresh :=
  ⟨h.savedId, by simp [App.crash], by simp [App.crash], rfl, rfl⟩

/-- Presenting one more of the early screens. -/
theorem present (h : a.Fresh) (hscene : App.early scene) : (a.present presenter scene).Fresh where
  savedId := savedId_present.trans h.savedId
  early s hs := by
    rcases mem_stack_present.mp hs with ⟨-, rfl⟩ | hs
    · exact hscene
    · exact h.early s hs
  calls := by rw [pending_present]; exact h.calls
  lookUps := by rw [pending_present]; exact h.lookUps
  queries := by rw [pending_present]; exact h.queries

/-- The topmost screen disappears. -/
theorem tail (h : a.Fresh) (hstack : a.stack = top :: rest) : Fresh { a with stack := rest } :=
  { h with early := fun s hs => h.early s (hstack ▸ List.mem_cons_of_mem top hs) }

/-- One more call that was made without a `savedId`. -/
theorem call (h : a.Fresh) {call : Call}
    (hcall : ∀ id, call.completion ≠ .viewDidLoad (some id)) :
    Fresh { a with pending.calls := a.pending.calls ++ [call] } := by
  refine { h with calls := fun call' hmem => ?_ }
  rcases List.mem_append.mp hmem with hmem | hmem
  · exact h.calls call' hmem
  · exact List.mem_singleton.mp hmem ▸ hcall

theorem launch (h : a.Fresh) : a.launch.Fresh where
  savedId := h.savedId
  early s hs := by rw [List.mem_singleton.mp hs]; rfl
  calls call hcall id := by
    rw [List.mem_singleton.mp hcall]
    simp [h.savedId]
  lookUps := rfl
  queries := rfl

theorem signupClick (h : a.Fresh) (k : Nat) : (SignupViewController.signupClick a k).Fresh := by
  rcases SignupViewController.signupClick_cases a k with ⟨message, hclick⟩ |
    ⟨email, password, hclick⟩ | hclick
  · rw [hclick]
    exact h.present rfl
  · rw [hclick]
    exact h.call (by simp)
  · rw [hclick]
    exact h

theorem signUpDone (h : a.Fresh) (k : Nat) (error : Option AuthErrorCode) :
    (SignupViewController.signUpDone a k error).Fresh := by
  rcases error with _ | _ | _ | _ | _
  · rw [SignupViewController.signUpDone]
    split
    · exact h.crash
    · exact { h with }
  · exact h.present rfl
  · exact h.present rfl
  · exact h.present rfl
  · exact h

/-- A tap that stores nothing. -/
theorem react {t : Tap} (hf : a.Fresh) (hstack : a.stack = top :: rest)
    (hsaves : a.saves (.tap t) = none) (h : a.react rest top t = some a') : a'.Fresh := by
  have htop := hf.early top (hstack ▸ List.mem_cons_self)
  revert h
  fun_cases App.react a rest top t <;> rintro ⟨⟩
  case case1 => exact hf.call (by simp)
  case case2 => exact { hf with }
  case case3 =>
    exact present (a := { a with signups := a.signups.concat {} }) { hf with } rfl
  case case4 k => exact hf.signupClick k
  case case5 | case8 => exact hf.tail hstack
  case case11 => rw [saves, hstack] at hsaves; cases hsaves
  all_goals cases htop

/-- The handler of a call to Firebase Auth that stores nothing. -/
theorem complete {i : Nat} (hf : a.Fresh) (hsaves : a.saves (.complete i) = none)
    (h : a.step (.complete i) = some a') : a'.Fresh := by
  obtain ⟨request, completion, error, hcall, rfl⟩ := step_complete h
  have herase : Fresh { a with pending.calls := a.pending.calls.eraseIdx i } :=
    { hf with calls := fun call hmem => hf.calls call (List.mem_of_mem_eraseIdx hmem) }
  rw [saves, hcall] at hsaves
  cases completion with
  | viewDidLoad getSavedidinfo =>
      cases getSavedidinfo with
      | none => exact herase
      | some id => exact absurd rfl (hf.calls _ (List.mem_of_getElem? hcall) id)
  | loginButtonClick =>
      cases error with
      | none => cases hsaves
      | some error => exact { herase.present rfl with }
  | sign idToken => cases hsaves
  | signUp k => exact herase.signUpDone k error

/-- Only an event that stores a `savedId` ends it. -/
theorem step (hf : a.Fresh) (hsaves : a.saves e = none) (h : a.step e = some a') : a'.Fresh := by
  cases e with
  | launch => cases h; exact hf.launch
  | tap t =>
      obtain ⟨top, rest, hstack, h⟩ := step_tap h
      exact hf.react hstack hsaves h
  | editLogin | editSignup | editNickname =>
      obtain ⟨-, ⟨⟩⟩ := Option.ite_none_right_eq_some.mp h
      exact { hf with }
  | sign user =>
      obtain ⟨-, ⟨⟩⟩ := Option.ite_none_right_eq_some.mp h
      rcases user with _ | ⟨idToken, email⟩
      · exact { hf with }
      · exact call (a := { a with pending.googles := a.pending.googles - 1 }) { hf with } (by simp)
  | authenticate i error =>
      obtain ⟨request, completion, hcall, rfl⟩ := step_authenticate h
      refine { hf with calls := fun call' hmem => ?_ }
      rcases List.mem_or_eq_of_mem_set hmem with hmem | rfl
      · exact hf.calls call' hmem
      · exact hf.calls ⟨request, completion, none⟩ (List.mem_of_getElem? hcall)
  | complete i => exact hf.complete hsaves h
  | getDocument i ok =>
      obtain ⟨id, hid, rfl⟩ := Option.map_eq_some_iff.mp h
      rw [hf.lookUps] at hid
      cases hid
  | setData i ok =>
      obtain ⟨⟨k, id, fields⟩, -, rfl⟩ := Option.map_eq_some_iff.mp h
      exact present (a := { a with users := _, pending.setDatas := _ }) { hf with } rfl
  | getDocuments i ok =>
      obtain ⟨⟨k, email⟩, hquery, rfl⟩ := Option.map_eq_some_iff.mp h
      rw [hf.queries] at hquery
      cases hquery
  | updateData i ok =>
      obtain ⟨⟨id, fields⟩, -, rfl⟩ := Option.map_eq_some_iff.mp h
      exact { hf with }
  | others users => cases h; exact { hf with }

/-- Nothing on the screens forces `savedId`. -/
theorem forces_eq_zero (hf : a.Fresh) (h : a.step e = some a') : a.forces e = 0 := by
  fun_cases App.forces a e
  case case1 =>
    obtain ⟨top, rest, hstack, h⟩ := step_tap h
    have htop := hf.early top (hstack ▸ List.mem_cons_self)
    cases top with
    | setNickname k => cases htop
    | _ => cases h
  case case2 => rw [hf.queries]; rfl
  case case3 => rfl

end Fresh

theorem stack_getDocumentsDone {k : Nat} {documents : List (DocId × Document)}
    (hsaved : a.savedId = none) (h : documents ≠ []) :
    (SetNicknameViewController.getDocumentsDone a k documents).stack = [] := by
  rw [SetNicknameViewController.getDocumentsDone,
    if_neg (Bool.not_eq_true _ ▸ List.isEmpty_eq_false_iff.mpr h), hsaved]
  rfl

/-- Where the nickname screen forces `savedId` and it is missing, the process ends. -/
theorem ends_of_absent (h : a.step e = some a') (hforces : 0 < a.forces e)
    (hsaved : a.savedId = none) : a'.stack = [] := by
  revert hforces
  fun_cases forces a e
  case case1 =>
    intro _
    obtain ⟨top, rest, -, h⟩ := step_tap h
    cases top with
    | setNickname k =>
        cases h
        rw [SetNicknameViewController.setNickname, hsaved]
        rfl
    | _ => cases h
  case case2 i =>
    obtain ⟨⟨k, email⟩, hquery, rfl⟩ := Option.map_eq_some_iff.mp h
    rw [hquery, Option.map_some, Option.getD_some]
    intro hforces
    exact stack_getDocumentsDone hsaved (List.ne_nil_of_length_pos hforces)
  case case3 => exact fun hforces => absurd hforces (Nat.lt_irrefl 0)

end App

namespace Device

variable {d d' d₀ : Device} {e : Event} {es : List Event}

/-- Where `savedId` is forced and is missing, the process ends. -/
theorem ends_of_absent (hd : d.step e = some d') (hforces : 0 < d.forces e)
    (hsaved : d.app.savedId = none) : d'.app.stack = [] := by
  have hforce (d₁ : Device) (h₁ : d₁.app.savedId = none) (body : String → Device) :
      (d₁.force body).app.stack = [] := by
    rw [force, h₁]
    rfl
  cases e with
  | app e =>
      obtain ⟨-, hd⟩ := Option.ite_none_right_eq_some.mp hd
      obtain ⟨a, ha, rfl⟩ := Option.map_eq_some_iff.mp hd
      exact App.ends_of_absent ha hforces hsaved
  | openContent contentId =>
      obtain ⟨-, ⟨⟩⟩ := Option.ite_none_right_eq_some.mp hd
      exact hforce _ hsaved _
  | writeReview | clickLikeBtn =>
      obtain ⟨vc, -, rfl⟩ := Option.map_eq_some_iff.mp hd
      exact hforce d hsaved _
  | likes i id documents =>
      obtain ⟨⟨contentId, connectingEmail⟩, -, rfl⟩ := Option.map_eq_some_iff.mp hd
      cases documents with
      | none => exact absurd hforces (Nat.lt_irrefl 0)
      | some documents =>
          refine hforce _ ?_ _
          exact hsaved
  | back | editReview | okButton => exact absurd hforces (Nat.lt_irrefl 0)

/-- What an account has left behind, there is only if one was stored. -/
structure Inv (d : Device) : Prop where
  loggedOut : d.loggedOut → d.app.savedId = none
  fresh : d.app.savedId = none → d.loggedOut = false →
    d.app.Fresh ∧ d.content = none ∧ d.likes = []

/-- An event that only concerns the details of a trip. -/
theorem Inv.of_app (h : d.Inv) (happ : d'.app = d.app) (hout : d'.loggedOut = d.loggedOut)
    (hempty : d.content = none → d.likes = [] → d'.content = none ∧ d'.likes = []) : d'.Inv where
  loggedOut := by rw [happ, hout]; exact h.loggedOut
  fresh := by
    rw [happ, hout]
    intro hsaved hin
    obtain ⟨hfresh, hcontent, hlikes⟩ := h.fresh hsaved hin
    exact ⟨hfresh, hempty hcontent hlikes⟩

/-- Where `savedId` is forced, either it is there or nothing is left. -/
theorem Inv.force {body : String → Device} (h : d.Inv) (happ : d'.app = d.app)
    (hout : d'.loggedOut = d.loggedOut)
    (hbody : ∀ id, (body id).app = d.app ∧ (body id).loggedOut = d.loggedOut) :
    (d'.force body).Inv := by
  rw [Device.force, happ]
  split
  · next hsaved =>
    refine ⟨fun _ => ?_, fun _ hin => ⟨?_, rfl, rfl⟩⟩
    · rw [crash, happ]
      exact hsaved
    · rw [crash, happ]
      exact (h.fresh hsaved (hout ▸ hin)).1.crash
  · next id hsaved =>
    obtain ⟨happ', hout'⟩ := hbody id
    constructor
    · rw [happ', hout']
      exact h.loggedOut
    · rw [happ', hsaved]
      rintro ⟨⟩

/-- The details are shown only if they were opened. -/
theorem content_of_shown {alert : Bool} {vc : ContentViewController}
    (h : d.shown alert = some vc) : d.content ≠ none := by
  intro hcontent
  rw [shown, hcontent] at h
  split at h <;> cases h

/-- What happens on the other screens. -/
theorem Inv.after {e : App.Event} {a : App} (h : d.Inv) (ha : d.app.step e = some a) :
    (d.after e a).Inv := by
  have hsaved := App.savedId_step ha
  cases hsaves : d.app.saves e with
  | none =>
      rw [hsaves, Option.getD_none] at hsaved
      rw [Device.after, hsaves]
      constructor
      · intro hout
        exact hsaved.trans (h.loggedOut hout)
      · intro hnone hin
        obtain ⟨hfresh, hcontent, hlikes⟩ := h.fresh (hsaved.symm.trans hnone) hin
        rw [hcontent, hlikes, ite_self, ite_self]
        exact ⟨hfresh.step hsaves ha, rfl, rfl⟩
  | some id =>
      rw [hsaves, Option.getD_some] at hsaved
      rw [Device.after, hsaves]
      constructor
      · intro hout
        exact hsaved.trans (Option.isNone_iff_eq_none.mp hout)
      · intro hnone hin
        rw [hsaved.symm.trans hnone] at hin
        cases hin

/-- One step keeps the invariant. -/
theorem Inv.step (h : d.Inv) (hd : d.step e = some d') : d'.Inv := by
  cases e with
  | app e =>
      obtain ⟨-, hd⟩ := Option.ite_none_right_eq_some.mp hd
      obtain ⟨a, ha, rfl⟩ := Option.map_eq_some_iff.mp hd
      exact h.after ha
  | openContent contentId =>
      obtain ⟨-, ⟨⟩⟩ := Option.ite_none_right_eq_some.mp hd
      exact h.force rfl rfl fun _ => ⟨rfl, rfl⟩
  | back =>
      obtain ⟨vc, -, rfl⟩ := Option.map_eq_some_iff.mp hd
      exact h.of_app rfl rfl fun _ hlikes => ⟨rfl, hlikes⟩
  | editReview | okButton =>
      obtain ⟨vc, hvc, rfl⟩ := Option.map_eq_some_iff.mp hd
      exact h.of_app rfl rfl fun hcontent _ => absurd hcontent (content_of_shown hvc)
  | writeReview now id =>
      obtain ⟨vc, -, rfl⟩ := Option.map_eq_some_iff.mp hd
      exact h.force rfl rfl fun _ => by split <;> exact ⟨rfl, rfl⟩
  | clickLikeBtn =>
      obtain ⟨vc, -, rfl⟩ := Option.map_eq_some_iff.mp hd
      exact h.force rfl rfl fun _ => ⟨rfl, rfl⟩
  | likes i id documents =>
      obtain ⟨⟨contentId, connectingEmail⟩, hlike, rfl⟩ := Option.map_eq_some_iff.mp hd
      cases documents with
      | none =>
          refine h.of_app rfl rfl fun _ hlikes => ?_
          rw [hlikes] at hlike
          cases hlike
      | some documents => exact h.force rfl rfl fun _ => ⟨rfl, rfl⟩

/-- Nothing forces `savedId` before an account was stored. -/
theorem forces_eq_zero (hfresh : d.app.Fresh) (hcontent : d.content = none) (hlikes : d.likes = [])
    (hd : d.step e = some d') : d.forces e = 0 := by
  have hshown {alert : Bool} {vc : ContentViewController} : d.shown alert ≠ some vc :=
    fun hvc => content_of_shown hvc hcontent
  cases e with
  | app e =>
      obtain ⟨-, hd⟩ := Option.ite_none_right_eq_some.mp hd
      obtain ⟨a, ha, -⟩ := Option.map_eq_some_iff.mp hd
      exact hfresh.forces_eq_zero ha
  | openContent contentId =>
      obtain ⟨⟨htop, -⟩, -⟩ := Option.ite_none_right_eq_some.mp hd
      cases hfresh.early .navigation (List.mem_of_mem_head? htop)
  | writeReview | clickLikeBtn =>
      obtain ⟨vc, hvc, -⟩ := Option.map_eq_some_iff.mp hd
      exact absurd hvc hshown
  | likes i id documents =>
      obtain ⟨like, hlike, -⟩ := Option.map_eq_some_iff.mp hd
      rw [hlikes] at hlike
      cases hlike
  | back | editReview | okButton => rfl

/-- What is missing was taken away by a logout. -/
theorem Inv.present_iff (h : d.Inv) (hd : d.step e = some d') : d.Present e ↔ d.LoggedIn e := by
  constructor
  · intro hpresent hforces
    rw [← Bool.not_eq_true]
    intro hout
    have hsome := hpresent hforces
    rw [h.loggedOut hout] at hsome
    cases hsome
  · intro hin hforces
    rw [Option.isSome_iff_ne_none]
    intro hsaved
    obtain ⟨hfresh, hcontent, hlikes⟩ := h.fresh hsaved (hin hforces)
    exact absurd (forces_eq_zero hfresh hcontent hlikes hd) (Nat.ne_of_gt hforces)

/-- The process is not running, and what was last stored is still there. -/
structure Start (d : Device) : Prop where
  app : d.app.NotRunning
  content : d.content = none
  likes : d.likes = []
  loggedOut : d.loggedOut = false

theorem Start.inv (h : d.Start) : d.Inv where
  loggedOut hout := absurd (h.loggedOut.symm.trans hout) Bool.false_ne_true
  fresh hsaved _ := by
    refine ⟨⟨hsaved, ?_, ?_, ?_, ?_⟩, h.content, h.likes⟩
    · rw [h.app.stack]
      rintro s ⟨⟩
    · rw [h.app.pending]
      rintro call ⟨⟩
    · rw [h.app.pending]
    · rw [h.app.pending]

/-- **`savedId` is present wherever it is forced** along a run exactly if no event
of the run forces it between a logout and the next login. -/
theorem steps_present_iff (h₀ : d₀.Start) (h : system.Runs d₀ es d) :
    (∀ fs e b, fs ++ [e] <+: es → system.Runs d₀ fs b → b.Present e) ↔
      system.Steps LoggedIn d₀ es d := by
  rw [← h.steps_iff_forall_prefix]
  exact h.iff_steps (I := Inv) (fun hI _ _ hd => hI.step hd) (fun hI _ hd => hI.present_iff hd)
    h₀.inv

instance (d : Device) (e : Event) : Decidable (d.LoggedIn e) :=
  inferInstanceAs (Decidable (_ → _))

/-- The first launch. -/
def installed : Device := { app := {} }

theorem start_installed : installed.Start := ⟨⟨rfl, rfl⟩, rfl, rfl, rfl⟩

/-- A user logs in, opens a trip and likes it. -/
def liked : List Event := App.loggedIn.map .app ++
  [.openContent "trip", .clickLikeBtn, .likes 0 "like" (some [])]

theorem liked_present : ∃ d, system.Runs installed liked d ∧
    ∀ fs e b, fs ++ [e] <+: liked → system.Runs installed fs b → b.Present e := by
  obtain ⟨d, hrun, -⟩ := EventSystem.exists_steps_of_exec system LoggedIn installed liked
    (fun _ => true) (by decide)
  exact ⟨d, hrun.runs, (steps_present_iff start_installed hrun.runs).mpr hrun⟩

/-- A user signs up, sets a nickname and logs out. -/
def signedUp : List App.Event := [.launch, .tap .signUpButton,
  .editSignup 0 "a@b.c" "secret" "secret", .tap .signupClick, .authenticate 1 none, .complete 1,
  .setData 0 true, .tap .okButton, .tap .setNickname, .tap .logoutButton, .tap .yesButton]

/-- Behind the main screen there is the nickname screen, whose button can be
tapped once more. -/
theorem exists_absent : ¬∀ {d₀ d : Device} {es : List Event}, d₀.Start →
    system.Runs d₀ es d →
    ∀ fs e b, fs ++ [e] <+: es → system.Runs d₀ fs b → b.Present e := by
  intro hall
  obtain ⟨d, hrun, hd⟩ := EventSystem.exists_runs_of_exec system installed (signedUp.map .app)
    (fun d => (d.step (.app (.tap .setNickname))).isSome && d.app.savedId.isNone) (by decide)
  obtain ⟨hstep, hsaved⟩ := Bool.and_eq_true_iff.mp hd
  obtain ⟨d', hstep⟩ : ∃ d', system.step d (.app (.tap .setNickname)) = some d' :=
    Option.isSome_iff_exists.mp hstep
  have hsome := hall start_installed (hrun.snoc trivial hstep) _ _ d (List.prefix_refl _) hrun
    Nat.zero_lt_one
  rw [Option.isNone_iff_eq_none.mp hsaved] at hsome
  cases hsome

end Device

end Groute
