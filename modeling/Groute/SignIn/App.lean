import Groute.Lib.EventSystem
import Groute.SignIn.Controllers

/-!
# One device, from launch to launch

The events are the taps of the user, edits of the text fields, the answers of
Firebase and Google, and launches.  A request to Firebase Auth is carried out
first, which is when the session changes, and its handler runs later.

The process can be launched anew at any time; the user defaults, the session and
the database survive, everything else does not.
-/

namespace Groute

namespace App

/-- What the user can tap or swipe. -/
inductive Tap where
  | loginButtonClick
  | googleLogin
  | signUpButton
  | signupClick
  /-- The sign-up screen is swiped down. -/
  | dismissSignup
  | setNickname
  | logoutButton
  /-- The buttons of the alerts. -/
  | yesButton
  | noButton
  | okButton
deriving DecidableEq

/-- What can happen. -/
inductive Event where
  | launch
  | tap (t : Tap)
  | editLogin (idTextfield passwordTextfield : String)
  | editSignup (k : Nat) (emailTextField passwordTextfield passwordConfirmTextfield : String)
  | editNickname (k : Nat) (nickTextField : String)
  /-- Google sign-in delivers an identity token and an e-mail, or fails. -/
  | sign (user : Option (String × String))
  /-- Firebase Auth carries out the `i`-th call. -/
  | authenticate (i : Nat) (error : Option AuthErrorCode)
  /-- The handler of the `i`-th call runs. -/
  | complete (i : Nat)
  | getDocument (i : Nat) (ok : Bool)
  | setData (i : Nat) (ok : Bool)
  | getDocuments (i : Nat) (ok : Bool)
  | updateData (i : Nat) (ok : Bool)
  /-- The documents of `User` are changed by other devices, or by a write that was
  issued before the last launch. -/
  | others (users : Collection DocId Document)

/-- The process is launched. -/
def launch (a : App) : App :=
  LoginViewController.viewDidLoad { a with
    stack := [.login], login := {}, signups := [], nicknames := [], pending := {} }

/-- The segue to the sign-up screen, which is presented like the others. -/
def signUpButton (a : App) : App :=
  { a with signups := a.signups.concat {} }.present .login (.signup a.signups.length)

/-- What a tap on the topmost screen does; `rest` are the screens below.  An alert
disappears before its handler runs. -/
def react (a : App) (rest : List Scene) : Scene → Tap → Option App
  | .login, .loginButtonClick => some (LoginViewController.loginButtonClick a)
  | .login, .googleLogin => some { a with pending.googles := a.pending.googles + 1 }
  | .login, .signUpButton => some a.signUpButton
  | .signup k, .signupClick => some (SignupViewController.signupClick a k)
  | .signup _, .dismissSignup => some { a with stack := rest }
  | .setNickname k, .setNickname => some (SetNicknameViewController.setNickname a k)
  | .navigation, .logoutButton => some (UserSettingController.appearAlert a)
  | .alert _ _, .okButton => some { a with stack := rest }
  | .settingNicknameAlert, .yesButton =>
      some (LoginViewController.moveToNickView { a with stack := rest })
  | .settingNicknameAlert, .noButton => some { a with stack := rest }
  | .signUpAlert k _ _, .okButton => some (SignupViewController.okButton { a with stack := rest } k)
  | .logoutAlert, .yesButton => some (UserSettingController.logout { a with stack := rest })
  | .logoutAlert, .noButton => some { a with stack := rest }
  | _, _ => none

/-- The handler of a call to Firebase Auth runs. -/
def completed (a : App) (error : Option AuthErrorCode) : Completion → App
  | .viewDidLoad getSavedidinfo => LoginViewController.viewDidLoadDone a getSavedidinfo
  | .loginButtonClick => LoginViewController.loginButtonClickDone a error
  | .sign idToken => LoginViewController.signDone a idToken
  | .signUp k => SignupViewController.signUpDone a k error

/-- The documents of `User` with an e-mail, without those of subcollections. -/
def usersWithEmail (a : App) (email : String) : List (DocId × Document) :=
  (a.users.query fun d => d.get "Email" = some (.string email)).filter fun document =>
    IsDirect document.1

/-- The state after an event. -/
def step (a : App) : Event → Option App
  | .launch => some a.launch
  | .tap t =>
      match a.stack with
      | [] => none
      | top :: rest => a.react rest top t
  | .editLogin idTextfield passwordTextfield =>
      if .login ∈ a.stack then some { a with login := { idTextfield, passwordTextfield } } else none
  | .editSignup k emailTextField passwordTextfield passwordConfirmTextfield =>
      if .signup k ∈ a.stack then
        some { a with signups := a.signups.set k { a.signup k with
          emailTextField, passwordTextfield, passwordConfirmTextfield } }
      else none
  | .editNickname k nickTextField =>
      if .setNickname k ∈ a.stack then
        some { a with nicknames := a.nicknames.set k { nickTextField } }
      else none
  | .sign user =>
      if 0 < a.pending.googles then
        some (LoginViewController.sign
          { a with pending.googles := a.pending.googles - 1 } user)
      else none
  | .authenticate i error =>
      a.pending.calls[i]?.bind fun call =>
        if call.outcome.isNone then
          some { a with
            currentUser := if error.isNone then some call.request.account else a.currentUser
            pending.calls := a.pending.calls.set i { call with outcome := some error } }
        else none
  | .complete i =>
      a.pending.calls[i]?.bind fun call => call.outcome.map fun error =>
        completed { a with pending.calls := a.pending.calls.eraseIdx i } error call.completion
  | .getDocument i ok =>
      a.pending.lookUps[i]?.map fun id => LoginViewController.getDocumentDone
        { a with pending.lookUps := a.pending.lookUps.eraseIdx i }
        (if ok then a.users.get id else none)
  | .setData i ok =>
      a.pending.setDatas[i]?.map fun (k, id, fields) => SignupViewController.setDataDone
        { a with
          users := if ok then a.users.set id (.ofFields fields) else a.users
          pending.setDatas := a.pending.setDatas.eraseIdx i } k ok
  | .getDocuments i ok =>
      a.pending.queries[i]?.map fun (k, email) => SetNicknameViewController.getDocumentsDone
        { a with pending.queries := a.pending.queries.eraseIdx i } k
        (if ok then a.usersWithEmail email else [])
  | .updateData i ok =>
      a.pending.updates[i]?.map fun (id, fields) =>
        { a with
          users := if ok then a.users.modify id (·.updateData fields) else a.users
          pending.updates := a.pending.updates.eraseIdx i }
  | .others users => some { a with users }

/-- The event has started the process or ended it. -/
def ended (a : App) : Event → Bool
  | .launch => true
  | _ => a.stack.isEmpty

/-- One device. -/
def system : EventSystem App Event := ⟨step⟩

variable {a a' : App} {i : Nat}

/-- A tap meets the topmost screen. -/
theorem step_tap {t : Tap} (h : a.step (.tap t) = some a') :
    ∃ top rest, a.stack = top :: rest ∧ a.react rest top t = some a' := by
  cases hstack : a.stack with
  | nil =>
      simp only [step, hstack] at h
      cases h
  | cons top rest =>
      simp only [step, hstack] at h
      exact ⟨top, rest, rfl, h⟩

/-- Only a call that has not been carried out is. -/
theorem step_authenticate {error : Option AuthErrorCode}
    (h : a.step (.authenticate i error) = some a') :
    ∃ request completion, a.pending.calls[i]? = some ⟨request, completion, none⟩ ∧
      a' = { a with
        currentUser := if error.isNone then some request.account else a.currentUser
        pending.calls := a.pending.calls.set i ⟨request, completion, some error⟩ } := by
  obtain ⟨⟨request, completion, outcome⟩, hcall, h⟩ := Option.bind_eq_some_iff.mp h
  obtain ⟨hnone, ⟨⟩⟩ := Option.ite_none_right_eq_some.mp h
  obtain rfl := Option.isNone_iff_eq_none.mp hnone
  exact ⟨request, completion, hcall, rfl⟩

/-- Only the handler of a call that has been carried out runs. -/
theorem step_complete (h : a.step (.complete i) = some a') :
    ∃ request completion error, a.pending.calls[i]? = some ⟨request, completion, some error⟩ ∧
      a' = completed { a with pending.calls := a.pending.calls.eraseIdx i } error completion := by
  obtain ⟨⟨request, completion, outcome⟩, hcall, h⟩ := Option.bind_eq_some_iff.mp h
  obtain ⟨error, rfl, rfl⟩ := Option.map_eq_some_iff.mp h
  exact ⟨request, completion, error, hcall, rfl⟩

end App

end Groute
