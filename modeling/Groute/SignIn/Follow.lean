import Groute.Lib.Removal
import Groute.SignIn.Identity

/-!
# What events leave of a request

A request stays on its way until it is its own turn, whatever else happens on the
device: the lists of requests grow at their ends, and entries move up only when an
earlier one is done.  And nothing is presented on the alert of a sign-up, so it stays
where it is until its button is tapped.
-/

namespace Groute

namespace App

variable {a a' : App} {presenter scene top : Scene} {rest : List Scene} {e : Event}

/-- Nothing on its way is forgotten. -/
structure Pends (a a' : App) : Prop where
  calls : a.pending.calls <+: a'.pending.calls
  setDatas : a.pending.setDatas <+: a'.pending.setDatas

theorem Pends.of_pending_eq (h : a'.pending = a.pending) : Pends a a' :=
  ⟨h ▸ List.prefix_rfl, h ▸ List.prefix_rfl⟩

theorem Pends.refl (a : App) : Pends a a := .of_pending_eq rfl

/-- Moreover an alert of a sign-up stays on top. -/
structure Grows (a a' : App) : Prop extends Pends a a' where
  alert : ∀ k title message rest,
    a.stack = .signUpAlert k title message :: rest → a'.stack = a.stack

/-- The same unless the process ends. -/
def Lasts (a a' : App) : Prop := a'.stack ≠ [] → Grows a a'

namespace Grows

theorem refl (a : App) : Grows a a := ⟨.refl a, fun _ _ _ _ _ => rfl⟩

theorem lasts (h : Grows a a') : Lasts a a' := fun _ => h

theorem present (h : ∀ k title message, presenter ≠ .signUpAlert k title message) :
    Grows a (a.present presenter scene) where
  toPends := .of_pending_eq pending_present
  alert k title message rest hstack := by
    rw [App.present, if_neg]
    rw [hstack, List.head?_cons, Option.some.injEq]
    exact fun htop => h k title message htop.symm

theorem showAlert (k : Nat) (message : String) :
    Grows a (SignupViewController.showAlert a k message) :=
  present (by simp)

theorem call (a : App) (call : Call) :
    Grows a { a with pending.calls := a.pending.calls ++ [call] } :=
  { refl a with calls := List.prefix_append _ _ }

theorem sign (user : Option (String × String)) : Grows a (LoginViewController.sign a user) := by
  rcases user with _ | ⟨idToken, email⟩
  · exact refl a
  · exact call a _

theorem signupClick (k : Nat) : Grows a (SignupViewController.signupClick a k) := by
  rcases SignupViewController.signupClick_cases a k with ⟨message, hclick⟩ |
    ⟨email, password, hclick⟩ | hclick
  · rw [hclick]
    exact showAlert k message
  · rw [hclick]
    exact call a _
  · rw [hclick]
    exact refl a

theorem appearAlert : Grows a (UserSettingController.appearAlert a) := present (by simp)

theorem setDataDone (k : Nat) (ok : Bool) : Grows a (SignupViewController.setDataDone a k ok) :=
  present (by simp)

theorem presentNickname (h : ∀ k title message, presenter ≠ .signUpAlert k title message) :
    Grows a (a.presentNickname presenter) := by
  have hgrows : Grows { a with nicknames := a.nicknames.concat {} } (a.presentNickname presenter) :=
    present h
  exact { hgrows with }

theorem getDocumentDone (document : Option Document) :
    Grows a (LoginViewController.getDocumentDone a document) := by
  cases document with
  | none => exact refl a
  | some document =>
      rw [LoginViewController.getDocumentDone]
      split <;> exact present (by simp)

theorem loginButtonClickDone (error : Option AuthErrorCode) :
    Grows a (LoginViewController.loginButtonClickDone a error) := by
  cases error with
  | none =>
      have h : Grows { a with savedId := some a.login.idTextfield }
          (LoginViewController.changeView { a with savedId := some a.login.idTextfield }) :=
        present (by simp)
      exact { h with }
  | some error =>
      have h : Grows a (a.present .login (.alert "로그인 실패" "아이디 또는 패스워드를 확인하여주세요.")) :=
        present (by simp)
      exact { h with }

theorem signDone (idToken : String) : Grows a (LoginViewController.signDone a idToken) := by
  have h : Grows { a with savedId := some idToken } (LoginViewController.signDone a idToken) :=
    present (by simp)
  exact { h with }

end Grows

namespace Lasts

theorem crash (a : App) : Lasts a a.crash := fun h => absurd rfl h

theorem viewDidLoadDone (getSavedidinfo : Option String) :
    Lasts a (LoginViewController.viewDidLoadDone a getSavedidinfo) := by
  cases getSavedidinfo with
  | none => exact (Grows.refl a).lasts
  | some savedId =>
      rw [LoginViewController.viewDidLoadDone]
      split
      · exact crash a
      · exact fun _ => { Grows.refl a with }

theorem signUpDone (k : Nat) (error : Option AuthErrorCode) :
    Lasts a (SignupViewController.signUpDone a k error) := by
  rcases error with _ | _ | _ | _ | _
  · rw [SignupViewController.signUpDone]
    split
    · exact crash a
    · exact fun _ => { Grows.refl a with setDatas := List.prefix_append _ _ }
  · exact (Grows.showAlert k _).lasts
  · exact (Grows.showAlert k _).lasts
  · exact (Grows.showAlert k _).lasts
  · exact (Grows.refl a).lasts

theorem getDocumentsDone (k : Nat) (documents : List (DocId × Document)) :
    Lasts a (SetNicknameViewController.getDocumentsDone a k documents) := by
  rw [SetNicknameViewController.getDocumentsDone]
  split
  · exact (Grows.refl a).lasts
  · split
    · exact crash a
    · exact fun _ => { Grows.refl a with }

end Lasts

/-- The handler of a call to Firebase Auth. -/
theorem Lasts.completed (error : Option AuthErrorCode) (completion : Completion) :
    Lasts a (a.completed error completion) := by
  cases completion with
  | viewDidLoad getSavedidinfo => exact viewDidLoadDone getSavedidinfo
  | loginButtonClick => exact (Grows.loginButtonClickDone error).lasts
  | sign idToken => exact (Grows.signDone idToken).lasts
  | signUp k => exact signUpDone k error

/-- A tap forgets nothing, unless it ends the process. -/
theorem pends_react {t : Tap} (h : a.react rest top t = some a') (hlive : a'.stack ≠ []) :
    Pends a a' := by
  revert h
  fun_cases react a rest top t <;> rintro ⟨⟩
  case case1 => exact (Grows.call a _).toPends
  case case2 => exact { Pends.refl a with }
  case case3 =>
    have h : Grows { a with signups := a.signups.concat {} } a.signUpButton := .present (by simp)
    exact { h.toPends with }
  case case4 k => exact (Grows.signupClick k).toPends
  case case6 k =>
    revert hlive
    rw [SetNicknameViewController.setNickname]
    split
    · exact absurd rfl
    · next saved _ =>
      intro _
      have h : Grows { a with pending.queries := a.pending.queries ++ [(k, saved)] }
          (App.present { a with pending.queries := a.pending.queries ++ [(k, saved)] }
            (.setNickname k) .navigation) := .present (by simp)
      exact { h.toPends with }
  case case7 => exact Grows.appearAlert.toPends
  case case9 =>
    have h : Grows { a with stack := rest }
        (LoginViewController.moveToNickView { a with stack := rest }) := .presentNickname (by simp)
    exact { h.toPends with }
  case case11 k _ _ =>
    have h : Grows { a with stack := rest, savedId := _ }
        (SignupViewController.okButton { a with stack := rest } k) := .presentNickname (by simp)
    exact { h.toPends with }
  case case12 =>
    exact .of_pending_eq (pending_dismiss (a := { a with savedId := none, stack := rest }))
  all_goals exact { Pends.refl a with }

/-- What other events leave of a sign-up. -/
structure Follows (a : App) (e : Event) (a' : App) : Prop where
  calls : (∀ j, e ≠ .complete j) → ∀ (i : Nat) (call : Call), a.pending.calls[i]? = some call →
    ∃ outcome, a'.pending.calls[i]? = some { call with outcome }
  setDatas : (∀ j ok, e ≠ .setData j ok) → ∀ (i : Nat) entry, a.pending.setDatas[i]? = some entry →
    a'.pending.setDatas[i]? = some entry
  alert : e ≠ .tap .okButton → ∀ k title message rest,
    a.stack = .signUpAlert k title message :: rest → a'.stack = a.stack

theorem Pends.calls_of_getElem? (h : Pends a a') {i : Nat} {call : Call}
    (hcall : a.pending.calls[i]? = some call) :
    ∃ outcome, a'.pending.calls[i]? = some { call with outcome } :=
  ⟨call.outcome, Removal.getElem?_of_prefix h.calls hcall⟩

theorem Grows.follows (h : Grows a a') : Follows a e a' where
  calls _ _ _ hcall := h.toPends.calls_of_getElem? hcall
  setDatas _ _ _ := Removal.getElem?_of_prefix h.setDatas
  alert _ := h.alert

theorem stack_of_ended (h : a'.ended e = false) (hne : e ≠ .launch) : a'.stack ≠ [] := by
  intro hnil
  cases e <;> simp [ended, hnil] at h hne

/-- What an event leaves of a sign-up, unless it starts or ends the process. -/
theorem step_follows (h : a.step e = some a') (hlive : a'.ended e = false) : Follows a e a' := by
  have hstack' : e ≠ .launch → a'.stack ≠ [] := stack_of_ended hlive
  cases e with
  | launch => cases hlive
  | tap t =>
      obtain ⟨top, rest, hstack, h⟩ := step_tap h
      have hpends := pends_react h (hstack' (by simp))
      refine ⟨fun _ _ _ => hpends.calls_of_getElem?,
        fun _ _ _ => Removal.getElem?_of_prefix hpends.setDatas, ?_⟩
      rintro hne k title message rest' heq
      rw [hstack] at heq
      obtain ⟨rfl, rfl⟩ := List.cons.inj heq
      cases t <;> first | exact absurd rfl hne | cases h
  | editLogin | editSignup | editNickname =>
      obtain ⟨-, ⟨⟩⟩ := Option.ite_none_right_eq_some.mp h
      exact Grows.follows { Grows.refl a with }
  | sign user =>
      obtain ⟨-, ⟨⟩⟩ := Option.ite_none_right_eq_some.mp h
      have h : Grows { a with pending.googles := a.pending.googles - 1 } _ := Grows.sign user
      exact Grows.follows { h with }
  | authenticate i error =>
      obtain ⟨request, completion, hcall, rfl⟩ := step_authenticate h
      refine { Grows.follows (Grows.refl a) with calls := fun _ i' call' hcall' => ?_ }
      by_cases hi : i = i'
      · subst hi
        cases hcall.symm.trans hcall'
        exact ⟨some error, List.getElem?_set_self (List.getElem?_eq_some_iff.mp hcall).1⟩
      · exact ⟨call'.outcome, (List.getElem?_set_ne hi).trans hcall'⟩
  | complete i =>
      obtain ⟨request, completion, error, -, rfl⟩ := step_complete h
      have h := Lasts.completed error completion (hstack' (by simp))
      exact ⟨fun hne => absurd rfl (hne i), h.follows.setDatas, h.follows.alert⟩
  | getDocument i ok =>
      obtain ⟨id, -, rfl⟩ := Option.map_eq_some_iff.mp h
      have h : Grows { a with pending.lookUps := a.pending.lookUps.eraseIdx i } _ :=
        Grows.getDocumentDone (if ok then a.users.get id else none)
      exact Grows.follows { h with }
  | setData i ok =>
      obtain ⟨⟨k, id, fields⟩, -, rfl⟩ := Option.map_eq_some_iff.mp h
      have h := (Grows.setDataDone k ok).lasts (hstack' (by simp))
      exact ⟨h.follows.calls, fun hne => absurd rfl (hne i ok), h.follows.alert⟩
  | getDocuments i ok =>
      obtain ⟨⟨k, email⟩, -, rfl⟩ := Option.map_eq_some_iff.mp h
      have h := Lasts.getDocumentsDone k _ (hstack' (by simp))
      exact Grows.follows { h with }
  | updateData i ok =>
      obtain ⟨⟨id, fields⟩, -, rfl⟩ := Option.map_eq_some_iff.mp h
      exact Grows.follows { Grows.refl a with }
  | others users =>
      cases h
      exact Grows.follows { Grows.refl a with }

/-- A call stays on its way while another one is completed. -/
theorem calls_complete {i j : Nat} {call : Call} (h : a.step (.complete j) = some a')
    (hlive : a'.stack ≠ []) (hne : j ≠ i) (hcall : a.pending.calls[i]? = some call) :
    a'.pending.calls[Removal.moved i j]? = some call := by
  obtain ⟨request, completion, error, -, rfl⟩ := step_complete h
  have hgrows := Lasts.completed error completion hlive
  exact Removal.getElem?_of_prefix hgrows.calls
    ((Removal.getElem?_eraseIdx_moved hne).trans hcall)

/-- A document stays on its way while another one is written. -/
theorem setDatas_setData {i j : Nat} {ok : Bool} {entry : Nat × DocId × Fields}
    (h : a.step (.setData j ok) = some a') (hne : j ≠ i)
    (hentry : a.pending.setDatas[i]? = some entry) :
    a'.pending.setDatas[Removal.moved i j]? = some entry := by
  obtain ⟨⟨k, id, fields⟩, -, rfl⟩ := Option.map_eq_some_iff.mp h
  exact Removal.getElem?_of_prefix (Grows.setDataDone k ok).setDatas
    ((Removal.getElem?_eraseIdx_moved hne).trans hentry)

end App

end Groute
