import Groute.Firestore.Path

/-!
# The screens before the main list

`LoginViewController`, `SignupViewController` and `SetNicknameViewController`
lead to the main screen, `UserSettingController` leads back.  They share the
entry `savedId` of the user defaults, the session of Firebase Auth and the stack
of presented screens, which together with the text fields and the requests on
their way make up an `App`.

A controller function is a function from `App` to `App`; what it passes to
Firebase as completion handler has a name ending in `Done`.
-/

namespace Groute

/-- A screen or an alert.  Several sign-up and nickname screens can be made in
one launch; they are numbered. -/
inductive Scene where
  | login
  | signup (k : Nat)
  | setNickname (k : Nat)
  | navigation
  /-- An alert whose only button does nothing. -/
  | alert (title message : String)
  | settingNicknameAlert
  | signUpAlert (k : Nat) (title message : String)
  | logoutAlert
deriving DecidableEq

/-- The login screen. -/
structure LoginViewController where
  idTextfield : String := ""
  passwordTextfield : String := ""

/-- A sign-up screen. -/
structure SignupViewController where
  emailTextField : String := ""
  passwordTextfield : String := ""
  passwordConfirmTextfield : String := ""
  joinId : String := ""

/-- A nickname screen. -/
structure SetNicknameViewController where
  nickTextField : String := ""

/-- The errors that sign-up tells apart. -/
inductive AuthErrorCode where
  | invalidEmail
  | emailAlreadyInUse
  | weakPassword
  | other
deriving DecidableEq

/-- What is asked of Firebase Auth. -/
inductive Request where
  | signIn (email password : String)
  /-- `signIn(with: credential)`, for the Google account with this e-mail. -/
  | credential (email : String)
  | createUser (email password : String)

/-- The account a request is about. -/
def Request.account : Request → String
  | .signIn email _ | .credential email | .createUser email _ => email

/-- The handlers that are passed to Firebase Auth, with what they capture. -/
inductive Completion where
  | viewDidLoad (getSavedidinfo : Option String)
  | loginButtonClick
  | sign (idToken : String)
  | signUp (k : Nat)

/-- A request on its way, and its outcome if Firebase Auth has carried it out:
`some none` is success. -/
structure Call where
  request : Request
  completion : Completion
  outcome : Option (Option AuthErrorCode) := none

/-- What has been started and whose handler has not run. -/
structure Pending where
  /-- The flows of Google sign-in. -/
  googles : Nat := 0
  calls : List Call := []
  /-- `getDocument` of the login screen. -/
  lookUps : List DocId := []
  /-- `setData` of the sign-up screens. -/
  setDatas : List (Nat × DocId × Fields) := []
  /-- `getDocuments` of the nickname screens. -/
  queries : List (Nat × String) := []
  updates : List (DocId × Fields) := []

/-- One device.  The process is running if there is a screen. -/
structure App where
  /-- The entry of the user defaults. -/
  savedId : Option String := none
  /-- The e-mail of `Auth.auth().currentUser`. -/
  currentUser : Option String := none
  /-- The collection `User` with what lies under it; a document is found by its path. -/
  users : Collection DocId Document := .empty
  /-- The screens, the topmost first. -/
  stack : List Scene := []
  login : LoginViewController := {}
  signups : List SignupViewController := []
  nicknames : List SetNicknameViewController := []
  pending : Pending := {}

namespace App

/-- The sign-up screen with a number. -/
def signup (a : App) (k : Nat) : SignupViewController := (a.signups[k]?).getD {}

/-- The nickname screen with a number. -/
def nickname (a : App) (k : Nat) : SetNicknameViewController := (a.nicknames[k]?).getD {}

/-- `presenter.present(scene)`, which does nothing unless the presenter is the
topmost screen. -/
def present (a : App) (presenter scene : Scene) : App :=
  if a.stack.head? = some presenter then { a with stack := scene :: a.stack } else a

/-- `presenter.dismiss()` of the topmost screen. -/
def dismiss (a : App) (scene : Scene) : App :=
  if a.stack.head? = some scene then { a with stack := a.stack.tail } else a

/-- A trap ends the process. -/
def crash (a : App) : App := { a with stack := [], pending := {} }

/-- Present a new nickname screen. -/
def presentNickname (a : App) (presenter : Scene) : App :=
  { a with nicknames := a.nicknames.concat {} }.present presenter (.setNickname a.nicknames.length)

end App

namespace LoginViewController

/-- The lines of `changeView`, which the handlers repeat. -/
def changeView (a : App) : App := a.present .login .navigation

def viewDidLoad (a : App) : App :=
  { a with pending.calls := a.pending.calls ++
      [⟨.signIn a.login.idTextfield a.login.passwordTextfield, .viewDidLoad a.savedId, none⟩] }

/-- The handler does not look at the outcome; `document(_)` can trap. -/
def viewDidLoadDone (a : App) : Option String → App
  | none => a
  | some savedId =>
      match CollectionReference.document savedId with
      | none => a.crash
      | some id => { a with pending.lookUps := a.pending.lookUps ++ [id] }

def settingNicknameAlert (a : App) : App := a.present .login .settingNicknameAlert

def getDocumentDone (a : App) : Option Document → App
  | none => a
  | some document =>
      if document.string "ExistNickname" = some "true" then changeView a
      else settingNicknameAlert a

def moveToNickView (a : App) : App := a.presentNickname .login

def loginButtonClick (a : App) : App :=
  { a with pending.calls := a.pending.calls ++
      [⟨.signIn a.login.idTextfield a.login.passwordTextfield, .loginButtonClick, none⟩] }

/-- The handler reads the text field again. -/
def loginButtonClickDone (a : App) : Option AuthErrorCode → App
  | none => { changeView { a with savedId := some a.login.idTextfield } with login := {} }
  | some _ => { a.present .login (.alert "로그인 실패" "아이디 또는 패스워드를 확인하여주세요.") with
      login := {} }

/-- The delegate of Google sign-in; `none` stands for an error and for a user
without `authentication`. -/
def sign (a : App) : Option (String × String) → App
  | none => a
  | some (idToken, email) =>
      { a with pending.calls := a.pending.calls ++ [⟨.credential email, .sign idToken, none⟩] }

/-- The handler tests the Google user instead of the outcome. -/
def signDone (a : App) (idToken : String) : App := changeView { a with savedId := some idToken }

end LoginViewController

namespace SignupViewController

def showAlert (a : App) (k : Nat) (message : String) : App :=
  a.present (.signup k) (.alert "회원가입 실패" message)

def signUp (a : App) (k : Nat) (email password : String) : App :=
  { a with pending.calls := a.pending.calls ++ [⟨.createUser email password, .signUp k, none⟩] }

def doSignUp (a : App) (k : Nat) : App :=
  let vc := a.signup k
  if vc.emailTextField = "" then showAlert a k "이메일을 입력해주세요"
  else if vc.passwordTextfield = "" then showAlert a k "비밀번호를 입력해주세요"
  else if vc.passwordConfirmTextfield = "" then showAlert a k "비밀번호 확인을 입력해주세요"
  else if vc.passwordTextfield ≠ vc.passwordConfirmTextfield then showAlert a k "비밀번호가 다릅니다."
  else signUp a k vc.emailTextField vc.passwordTextfield

def signupClick (a : App) (k : Nat) : App :=
  if (a.signup k).joinId = "" then doSignUp a k else a

/-- The button shows an alert, asks for the account or does nothing. -/
theorem signupClick_cases (a : App) (k : Nat) :
    (∃ message, signupClick a k = showAlert a k message) ∨
      (∃ email password, signupClick a k = signUp a k email password) ∨ signupClick a k = a := by
  rw [signupClick]
  split
  · rw [doSignUp]
    repeat' split
    · exact .inl ⟨_, rfl⟩
    · exact .inl ⟨_, rfl⟩
    · exact .inl ⟨_, rfl⟩
    · exact .inl ⟨_, rfl⟩
    · exact .inr (.inl ⟨_, _, rfl⟩)
  · exact .inr (.inr rfl)

/-- The handler of `createUser`; it reads the text field again, and `document(_)` can
trap. -/
def signUpDone (a : App) (k : Nat) : Option AuthErrorCode → App
  | some .invalidEmail => showAlert a k "유효하지 않은 이메일입니다."
  | some .emailAlreadyInUse => showAlert a k "이미 가입한 회원입니다."
  | some .weakPassword => showAlert a k "비밀번호는 6자리 이상 입력해주세요."
  | some .other => a
  | none =>
      let email := (a.signup k).emailTextField
      match CollectionReference.document email with
      | none => a.crash
      | some id => { a with pending.setDatas := a.pending.setDatas ++
          [(k, id, [("Email", .string email), ("ExistNickname", .string "false")])] }

/-- The handler of `setData`. -/
def setDataDone (a : App) (k : Nat) (ok : Bool) : App :=
  let alertTitle := if ok then "회원가입 완료" else "회원가입 실패"
  let alertMessage := if ok then "회원가입이 완료되었습니다." else "회원가입에 실패하였습니다."
  a.present (.signup k) (.signUpAlert k alertTitle alertMessage)

/-- The button of the alert, which is the same after a failure; it reads the text
field once more. -/
def okButton (a : App) (k : Nat) : App :=
  { a with savedId := some (a.signup k).emailTextField }.presentNickname (.signup k)

end SignupViewController

namespace SetNicknameViewController

/-- `savedId!` traps; the main screen does not wait for the query. -/
def setNickname (a : App) (k : Nat) : App :=
  match a.savedId with
  | none => a.crash
  | some savedId => { a with pending.queries := a.pending.queries ++ [(k, savedId)] }.present
      (.setNickname k) .navigation

/-- The fields that `setNickname` writes. -/
def fields (savedId nickTextField : String) : Fields := [
  ("Email", .string savedId),
  ("Nickname", .string nickTextField),
  ("ExistNickname", .string "true")]

/-- The handler of the query forces `savedId` at each document. -/
def getDocumentsDone (a : App) (k : Nat) (documents : List (DocId × Document)) : App :=
  if documents.isEmpty then a
  else match a.savedId with
    | none => a.crash
    | some savedId =>
        { a with
          pending.updates := a.pending.updates ++ documents.map fun document =>
            (document.1, fields savedId (a.nickname k).nickTextField) }

end SetNicknameViewController

namespace UserSettingController

def appearAlert (a : App) : App := a.present .navigation .logoutAlert

/-- Logging out leaves the session of Firebase Auth alone. -/
def logout (a : App) : App := { a with savedId := none }.dismiss .navigation

end UserSettingController

end Groute
