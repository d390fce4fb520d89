import Groute.SignIn.Stack

/-!
# Is one account signed in on the main screen?

The main screen attributes some writes to `savedId` and others to the session of
Firebase Auth.  Four handlers present it, and none of them compares the two: by
then `savedId` holds a text that may have changed since the sign-in, an identity
token, or what an earlier launch left there.  `App.SameAccount` says of each event
that can separate the two accounts when it does not.
-/

namespace Groute

namespace App

variable {a a' a₀ : App} {e : Event} {es : List Event} {presenter top : Scene}
  {rest : List Scene} {id : String}

/-- Someone is signed in, and `savedId` is their e-mail. -/
def Same (a : App) : Prop := a.currentUser.isSome ∧ a.savedId = a.currentUser

instance (a : App) : Decidable a.Same := inferInstanceAs (Decidable (_ ∧ _))

/-- While the main screen is presented, one account is signed in. -/
def OneIdentity (a : App) : Prop := .navigation ∈ a.stack → a.Same

/-- The main screen is presented already, or would be by the login screen. -/
def Enters (a : App) : Prop := a.stack.head? = some .login ∨ .navigation ∈ a.stack

instance (a : App) : Decidable a.Enters := inferInstanceAs (Decidable (_ ∨ _))

/-- What the handler of a call to Firebase Auth stores as `savedId` before it
presents the main screen. -/
def stored (a : App) (call : Call) : Option String :=
  match call.completion, call.outcome with
  | .loginButtonClick, some none => some a.login.idTextfield
  | .sign idToken, some _ => some idToken
  | _, _ => none

/-- The event does not separate the accounts. -/
def SameAccount (a : App) : Event → Prop
  | .authenticate i none => ∀ call ∈ a.pending.calls[i]?,
      .navigation ∈ a.stack → a.savedId = some call.request.account
  | .complete i => ∀ call ∈ a.pending.calls[i]?, ∀ id ∈ a.stored call,
      a.Enters → a.currentUser = some id
  | .getDocument i true => ∀ id ∈ a.pending.lookUps[i]?, ∀ document ∈ a.users.get id,
      document.string "ExistNickname" = some "true" → a.stack.head? = some .login → a.Same
  | .tap .setNickname => ∀ id ∈ a.savedId, a.currentUser = some id
  | _ => True

theorem same_iff (h : a.savedId = some id) : a.Same ↔ a.currentUser = some id := by
  rw [Same, h]
  constructor
  · rintro ⟨-, hid⟩
    exact hid.symm
  · intro hid
    rw [hid]
    exact ⟨rfl, rfl⟩

/-- What is quiet separates no accounts. -/
theorem Quiet.oneIdentity (h : Quiet a a') (ha : a.OneIdentity) : a'.OneIdentity := by
  intro hmem
  rw [Same, h.savedId, h.currentUser]
  exact ha (h.navigation hmem)

/-- The main screen is presented for the account that is signed in. -/
theorem oneIdentity_present_iff :
    (a.present presenter .navigation).OneIdentity ↔
      (a.stack.head? = some presenter ∨ .navigation ∈ a.stack → a.Same) := by
  rw [OneIdentity, Same, savedId_present, currentUser_present, mem_stack_present]
  simp only [and_true, Same]

/-- The login screen stores an account and presents the main screen. -/
theorem oneIdentity_changeView_iff :
    (LoginViewController.changeView { a with savedId := some id }).OneIdentity ↔
      (a.Enters → a.currentUser = some id) :=
  oneIdentity_present_iff.trans (imp_congr Iff.rfl (same_iff rfl))

/-- What a step does to the screens and to the accounts. -/
structure Spec (a : App) (e : Event) (a' : App) : Prop where
  wellStacked : a'.WellStacked
  oneIdentity_iff : a.OneIdentity → (a'.OneIdentity ↔ a.SameAccount e)

/-- A quiet event meets its condition. -/
theorem Quiet.spec (h : Quiet a a') (ha : a.WellStacked) (htrue : a.SameAccount e) :
    Spec a e a' :=
  ⟨h.wellStacked ha, fun hone => iff_of_true (h.oneIdentity hone) htrue⟩

/-- The nickname screen presents the main screen. -/
theorem spec_setNickname {k : Nat} (ha : a.WellStacked)
    (hstack : a.stack = .setNickname k :: rest) :
    Spec a (.tap .setNickname) (SetNicknameViewController.setNickname a k) := by
  rw [SetNicknameViewController.setNickname]
  split
  · next hsaved => exact (Quiet.crash a).spec ha fun id hid => by cases hsaved.symm.trans hid
  · next saved hsaved =>
    refine ⟨WellStacked.present (a := { a with pending := _ }) ha (Nat.lt_succ_self 2),
      fun hone => oneIdentity_present_iff.trans ?_⟩
    have htop : a.stack.head? = some (.setNickname k) := by rw [hstack, List.head?_cons]
    constructor
    · intro hsame id hid
      exact (same_iff hid).mp (hsame (.inl htop))
    · exact fun hid _ => (same_iff hsaved).mpr (hid saved hsaved)

/-- Confirming a sign-up stores an account while the main screen is not presented. -/
theorem spec_okButton {k : Nat} {title message : String} (ha : a.WellStacked)
    (hstack : a.stack = .signUpAlert k title message :: rest) :
    Spec a (.tap .okButton) (SignupViewController.okButton { a with stack := rest } k) := by
  have hquiet : Quiet { a with
      stack := rest, savedId := some (SignupViewController.emailTextField _) }
      (SignupViewController.okButton { a with stack := rest } k) :=
    Quiet.presentNickname (Nat.lt_succ_self 1)
  refine ⟨hquiet.wellStacked (ha.tail hstack), fun _ => iff_of_true (fun hmem => ?_) trivial⟩
  exact absurd (hquiet.navigation hmem) (ha.notMem hstack (Nat.le_succ 2))

/-- Logging out takes the main screen away. -/
theorem spec_logout (ha : a.WellStacked) (hstack : a.stack = .logoutAlert :: rest) :
    Spec a (.tap .yesButton) (UserSettingController.logout { a with stack := rest }) := by
  have hrest : WellStacked { a with stack := rest, savedId := none } := ha.tail hstack
  refine ⟨hrest.dismiss .navigation, fun _ => iff_of_true (fun hmem => ?_) trivial⟩
  refine absurd hmem (hrest.notMem_dismiss fun s hs => Nat.le_of_lt_succ ?_)
  rw [WellStacked, hstack, List.pairwise_cons] at ha
  exact ha.1 s hs

/-- What a tap on the topmost screen does. -/
theorem spec_react {t : Tap} (ha : a.WellStacked) (hstack : a.stack = top :: rest)
    (h : a.react rest top t = some a') : Spec a (.tap t) a' := by
  revert h
  fun_cases react a rest top t <;> rintro ⟨⟩
  case case1 | case2 => exact Quiet.spec { Quiet.refl a with } ha trivial
  case case3 => exact Quiet.signUpButton.spec ha trivial
  case case4 k => exact (Quiet.signupClick k).spec ha trivial
  case case6 k => exact spec_setNickname ha hstack
  case case7 => exact Quiet.appearAlert.spec ha trivial
  case case9 => exact ((Quiet.tail hstack).trans .moveToNickView).spec ha trivial
  case case11 k _ _ => exact spec_okButton ha hstack
  case case12 => exact spec_logout ha hstack
  all_goals exact (Quiet.tail hstack).spec ha trivial

/-- A handler that stores nothing meets its condition. -/
theorem sameAccount_complete {i : Nat} {call : Call} (hcall : a.pending.calls[i]? = some call)
    (h : a.stored call = none) : a.SameAccount (.complete i) := by
  intro call' hcall' id hid
  cases hcall.symm.trans hcall'
  cases h.symm.trans hid

/-- The condition on a handler that stores an account. -/
theorem sameAccount_complete_iff {i : Nat} {call : Call} (hcall : a.pending.calls[i]? = some call)
    (h : a.stored call = some id) :
    a.SameAccount (.complete i) ↔ (a.Enters → a.currentUser = some id) := by
  constructor
  · exact fun hsame => hsame call hcall id h
  · intro hsame call' hcall' id' hid'
    cases hcall.symm.trans hcall'
    cases h.symm.trans hid'
    exact hsame

/-- The handler of a call to Firebase Auth. -/
theorem spec_complete {i : Nat} (ha : a.WellStacked) (h : a.step (.complete i) = some a') :
    Spec a (.complete i) a' := by
  obtain ⟨request, completion, error, hcall, rfl⟩ := step_complete h
  cases completion with
  | viewDidLoad getSavedidinfo =>
      exact Quiet.spec { Quiet.viewDidLoadDone getSavedidinfo with } ha
        (sameAccount_complete hcall rfl)
  | loginButtonClick =>
      cases error with
      | none =>
          exact ⟨WellStacked.present (a := { a with savedId := _, pending := _ }) ha
            (Nat.zero_lt_succ 2), fun _ => Iff.trans oneIdentity_changeView_iff
              (sameAccount_complete_iff hcall rfl).symm⟩
      | some error =>
          exact Quiet.spec { Quiet.loginButtonClickDone error with } ha
            (sameAccount_complete hcall rfl)
  | sign idToken =>
      exact ⟨WellStacked.present (a := { a with savedId := _, pending := _ }) ha
        (Nat.zero_lt_succ 2), fun _ => Iff.trans oneIdentity_changeView_iff
          (sameAccount_complete_iff hcall rfl).symm⟩
  | signUp k =>
      exact Quiet.spec { Quiet.signUpDone k error with } ha (sameAccount_complete hcall rfl)

/-- The handler of the look-up of the login screen. -/
theorem spec_getDocument {i : Nat} {ok : Bool} (ha : a.WellStacked)
    (h : a.step (.getDocument i ok) = some a') : Spec a (.getDocument i ok) a' := by
  obtain ⟨id, hid, rfl⟩ := Option.map_eq_some_iff.mp h
  cases ok with
  | false => exact Quiet.spec { Quiet.refl a with } ha trivial
  | true =>
      rw [if_pos rfl]
      cases hdocument : a.users.get id with
      | none =>
          refine Quiet.spec { Quiet.refl a with } ha fun id' hid' document hdocument' => ?_
          cases hid.symm.trans hid'
          cases hdocument.symm.trans hdocument'
      | some document =>
          rw [LoginViewController.getDocumentDone]
          split
          · next hnick =>
            refine ⟨WellStacked.present (a := { a with pending := _ }) ha (Nat.zero_lt_succ 2),
              fun hone => oneIdentity_present_iff.trans ?_⟩
            constructor
            · exact fun hsame _ _ _ _ _ htop => hsame (.inl htop)
            · intro hsame henters
              exact henters.elim (hsame id hid document hdocument hnick) hone
          · next hnick =>
            refine Quiet.spec { Quiet.settingNicknameAlert with } ha
              fun id' hid' document' hdocument' hnick' => ?_
            cases hid.symm.trans hid'
            cases hdocument.symm.trans hdocument'
            exact absurd hnick' hnick

/-- Firebase Auth carries out a request. -/
theorem spec_authenticate {i : Nat} {error : Option AuthErrorCode} (ha : a.WellStacked)
    (h : a.step (.authenticate i error) = some a') : Spec a (.authenticate i error) a' := by
  obtain ⟨request, completion, hcall, rfl⟩ := step_authenticate h
  cases error with
  | some error => exact Quiet.spec { Quiet.refl a with } ha trivial
  | none =>
      refine ⟨ha, fun _ => ?_⟩
      constructor
      · intro hone call' hcall' hmem
        cases hcall.symm.trans hcall'
        exact (hone hmem).2
      · intro hsame hmem
        exact ⟨rfl, hsame _ hcall hmem⟩

/-- What any event does. -/
theorem step_spec (ha : a.WellStacked) (h : a.step e = some a') : Spec a e a' := by
  cases e with
  | launch =>
      cases h
      exact (Quiet.launch a).spec ha trivial
  | tap t =>
      obtain ⟨top, rest, hstack, h⟩ := step_tap h
      exact spec_react ha hstack h
  | editLogin | editSignup | editNickname =>
      obtain ⟨-, ⟨⟩⟩ := Option.ite_none_right_eq_some.mp h
      exact Quiet.spec { Quiet.refl a with } ha trivial
  | sign user =>
      obtain ⟨-, ⟨⟩⟩ := Option.ite_none_right_eq_some.mp h
      rcases user with _ | ⟨idToken, email⟩ <;> exact Quiet.spec { Quiet.refl a with } ha trivial
  | authenticate i error => exact spec_authenticate ha h
  | complete i => exact spec_complete ha h
  | getDocument i ok => exact spec_getDocument ha h
  | setData i ok =>
      obtain ⟨⟨k, id, fields⟩, -, rfl⟩ := Option.map_eq_some_iff.mp h
      exact Quiet.spec { Quiet.setDataDone k ok with } ha trivial
  | getDocuments i ok =>
      obtain ⟨⟨k, email⟩, -, rfl⟩ := Option.map_eq_some_iff.mp h
      exact Quiet.spec { Quiet.getDocumentsDone k _ with } ha trivial
  | updateData i ok =>
      obtain ⟨⟨id, fields⟩, -, rfl⟩ := Option.map_eq_some_iff.mp h
      exact Quiet.spec { Quiet.refl a with } ha trivial
  | others users =>
      cases h
      exact Quiet.spec { Quiet.refl a with } ha trivial

/-- The process is not running. -/
structure NotRunning (a : App) : Prop where
  stack : a.stack = []
  pending : a.pending = {}

/-- **One identity.**  Along a run, one account is signed in whenever the main
screen is presented, exactly if no event of the run separates the accounts. -/
theorem steps_oneIdentity_iff (h₀ : a₀.NotRunning) (h : system.Runs a₀ es a) :
    (∀ fs b, fs <+: es → system.Runs a₀ fs b → b.OneIdentity) ↔
      system.Steps SameAccount a₀ es a := by
  have hstart : a₀.WellStacked ∧ a₀.OneIdentity := by
    rw [WellStacked, OneIdentity, h₀.stack]
    exact ⟨.nil, by rintro ⟨⟩⟩
  rw [h.forall_prefix_iff, and_iff_right hstart.2]
  refine h.iff_steps (I := fun a => a.WellStacked ∧ a.OneIdentity)
    (fun hI _ hone hstep => ⟨(step_spec hI.1 hstep).wellStacked, hone _ hstep⟩)
    (fun hI _ hstep => ?_) hstart
  exact (EventSystem.forall_next_iff hstep).trans ((step_spec hI.1 hstep).oneIdentity_iff hI.2)

instance (a : App) (e : Event) : Decidable (a.SameAccount e) :=
  match e with
  | .authenticate i none => inferInstanceAs (Decidable (∀ call ∈ a.pending.calls[i]?,
      .navigation ∈ a.stack → a.savedId = some call.request.account))
  | .complete i => inferInstanceAs (Decidable (∀ call ∈ a.pending.calls[i]?,
      ∀ id ∈ a.stored call, a.Enters → a.currentUser = some id))
  | .getDocument i true => inferInstanceAs (Decidable (∀ id ∈ a.pending.lookUps[i]?,
      ∀ document ∈ a.users.get id, document.string "ExistNickname" = some "true" →
        a.stack.head? = some .login → a.Same))
  | .tap .setNickname => inferInstanceAs (Decidable (∀ id ∈ a.savedId, a.currentUser = some id))
  | .tap .loginButtonClick | .tap .googleLogin | .tap .signUpButton | .tap .signupClick
  | .tap .dismissSignup | .tap .logoutButton | .tap .yesButton | .tap .noButton | .tap .okButton
  | .authenticate _ (some _) | .getDocument _ false | .launch | .editLogin _ _
  | .editSignup _ _ _ _ | .editNickname _ _ | .sign _ | .setData _ _ | .getDocuments _ _
  | .updateData _ _ | .others _ => inferInstanceAs (Decidable True)

/-- A user logs in with an e-mail address. -/
def loggedIn : List Event :=
  [.launch, .editLogin "a@b.c" "secret", .tap .loginButtonClick, .authenticate 1 none, .complete 1]

theorem loggedIn_oneIdentity : ∃ a, system.Runs {} loggedIn a ∧
    (∀ fs b, fs <+: loggedIn → system.Runs {} fs b → b.OneIdentity) := by
  obtain ⟨a, hrun, -⟩ := EventSystem.exists_steps_of_exec system SameAccount {} loggedIn
    (fun _ => true) (by decide)
  exact ⟨a, hrun.runs, (steps_oneIdentity_iff ⟨rfl, rfl⟩ hrun.runs).mpr hrun⟩

/-- After a Google sign-in, `savedId` is the identity token. -/
theorem exists_two_identities : ¬∀ {a₀ a : App} {es : List Event}, a₀.NotRunning →
    system.Runs a₀ es a → a.OneIdentity := by
  intro hall
  obtain ⟨a, hrun, ha⟩ := EventSystem.exists_runs_of_exec system {}
    [.launch, .tap .googleLogin, .sign (some ("token", "a@b.c")), .authenticate 1 none,
      .complete 1]
    (fun a => decide (.navigation ∈ a.stack ∧ ¬a.Same)) (by decide)
  obtain ⟨hmem, hne⟩ := of_decide_eq_true ha
  exact hne (hall ⟨rfl, rfl⟩ hrun hmem)

end App

end Groute
