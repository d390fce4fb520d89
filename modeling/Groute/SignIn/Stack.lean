import Groute.SignIn.App

/-!
# Which screens lie on which

A screen is presented on the topmost screen only, and each controller presents
screens of its own kinds.  So the screens of a stack are strictly ordered by
`Scene.rank`, and the main screen is presented at most once.

Most of what a controller does is `Quiet`: it neither changes who is signed in
nor presents the main screen.
-/

namespace Groute

/-- A screen lies only on screens of lower rank. -/
def Scene.rank : Scene → Nat
  | .login => 0
  | .signup _ | .settingNicknameAlert => 1
  | .setNickname _ | .alert _ _ | .signUpAlert _ _ _ => 2
  | .navigation => 3
  | .logoutAlert => 4

namespace App

variable {a a' b : App} {presenter scene top : Scene} {rest : List Scene} {k : Nat}

/-- The screens of a stack are in order. -/
def WellStacked (a : App) : Prop := a.stack.Pairwise fun upper lower => lower.rank < upper.rank

@[simp] theorem savedId_present : (a.present presenter scene).savedId = a.savedId := by
  rw [present]
  split <;> rfl

@[simp] theorem currentUser_present : (a.present presenter scene).currentUser = a.currentUser := by
  rw [present]
  split <;> rfl

@[simp] theorem savedId_dismiss : (a.dismiss scene).savedId = a.savedId := by
  rw [dismiss]
  split <;> rfl

@[simp] theorem pending_dismiss : (a.dismiss scene).pending = a.pending := by
  rw [dismiss]
  split <;> rfl

@[simp] theorem pending_present : (a.present presenter scene).pending = a.pending := by
  rw [present]
  split <;> rfl

/-- What lies on the stack after presenting. -/
theorem mem_stack_present {s : Scene} :
    s ∈ (a.present presenter scene).stack ↔
      a.stack.head? = some presenter ∧ s = scene ∨ s ∈ a.stack := by
  rw [present]
  split
  · next h => simp only [List.mem_cons, h, true_and]
  · next h => simp only [h, false_and, false_or]

theorem WellStacked.present (h : a.WellStacked) (hrank : presenter.rank < scene.rank) :
    (a.present presenter scene).WellStacked := by
  rw [App.present]
  split
  case isFalse => exact h
  case isTrue htop =>
    obtain ⟨rest, hrest⟩ := List.head?_eq_some_iff.mp htop
    rw [WellStacked, hrest, List.pairwise_cons] at h
    rw [WellStacked, List.pairwise_cons, hrest]
    refine ⟨fun lower hlower => ?_, List.pairwise_cons.mpr h⟩
    rcases List.mem_cons.mp hlower with rfl | hlower
    · exact hrank
    · exact (h.1 lower hlower).trans hrank

theorem WellStacked.dismiss (h : a.WellStacked) (scene : Scene) :
    (a.dismiss scene).WellStacked := by
  rw [App.dismiss]
  split
  · exact h.sublist (List.tail_sublist _)
  · exact h

/-- A screen is not on the stack below one of no higher rank. -/
theorem WellStacked.notMem (h : a.WellStacked) (hstack : a.stack = top :: rest)
    (hrank : top.rank ≤ scene.rank) : scene ∉ rest := by
  rw [WellStacked, hstack, List.pairwise_cons] at h
  exact fun hmem => Nat.not_lt_of_le hrank (h.1 scene hmem)

/-- Dismissing a screen that nothing lies on takes it away. -/
theorem WellStacked.notMem_dismiss (h : a.WellStacked)
    (hrank : ∀ s ∈ a.stack, s.rank ≤ scene.rank) : scene ∉ (a.dismiss scene).stack := by
  rw [App.dismiss]
  cases hstack : a.stack with
  | nil => simp [hstack]
  | cons top rest =>
      have hle := hrank top (by rw [hstack]; exact List.mem_cons_self)
      split
      · exact h.notMem hstack hle
      · next htop =>
        rw [hstack, List.mem_cons, not_or]
        refine ⟨fun heq => htop ?_, h.notMem hstack hle⟩
        rw [heq, List.head?_cons]

/-- What is left when the topmost screen disappears. -/
theorem WellStacked.tail (h : a.WellStacked) (hstack : a.stack = top :: rest) :
    WellStacked { a with stack := rest } := by
  rw [WellStacked, hstack, List.pairwise_cons] at h
  exact h.2

/-- Nobody else is signed in, and the main screen is not presented. -/
structure Quiet (a a' : App) : Prop where
  savedId : a'.savedId = a.savedId
  currentUser : a'.currentUser = a.currentUser
  navigation : .navigation ∈ a'.stack → .navigation ∈ a.stack
  wellStacked : a.WellStacked → a'.WellStacked

namespace Quiet

theorem refl (a : App) : Quiet a a := ⟨rfl, rfl, id, id⟩

theorem trans (h : Quiet a a') (h' : Quiet a' b) : Quiet a b where
  savedId := h'.savedId.trans h.savedId
  currentUser := h'.currentUser.trans h.currentUser
  navigation := h.navigation ∘ h'.navigation
  wellStacked := h'.wellStacked ∘ h.wellStacked

theorem crash (a : App) : Quiet a a.crash := ⟨rfl, rfl, nofun, fun _ => .nil⟩

theorem launch (a : App) : Quiet a a.launch where
  savedId := rfl
  currentUser := rfl
  navigation := nofun
  wellStacked _ := List.pairwise_singleton _ _

theorem present (hrank : presenter.rank < scene.rank) (hscene : scene ≠ .navigation) :
    Quiet a (a.present presenter scene) where
  savedId := savedId_present
  currentUser := currentUser_present
  navigation hmem := (mem_stack_present.mp hmem).resolve_left fun h => hscene h.2.symm
  wellStacked h := h.present hrank

theorem presentNickname (hrank : presenter.rank < 2) : Quiet a (a.presentNickname presenter) := by
  have h : Quiet { a with nicknames := a.nicknames.concat {} } (a.presentNickname presenter) :=
    present hrank nofun
  exact { h with }

/-- The topmost screen disappears. -/
theorem tail (hstack : a.stack = top :: rest) : Quiet a { a with stack := rest } where
  savedId := rfl
  currentUser := rfl
  navigation hmem := hstack ▸ List.mem_cons_of_mem top hmem
  wellStacked h := h.tail hstack

theorem showAlert (k : Nat) (message : String) :
    Quiet a (SignupViewController.showAlert a k message) :=
  present (Nat.lt_succ_self 1) nofun

theorem signupClick (k : Nat) : Quiet a (SignupViewController.signupClick a k) := by
  rcases SignupViewController.signupClick_cases a k with ⟨message, hclick⟩ |
    ⟨email, password, hclick⟩ | hclick
  · rw [hclick]
    exact showAlert k message
  · rw [hclick]
    exact { refl a with }
  · rw [hclick]
    exact refl a

theorem viewDidLoadDone (getSavedidinfo : Option String) :
    Quiet a (LoginViewController.viewDidLoadDone a getSavedidinfo) := by
  rcases getSavedidinfo with _ | savedId
  · exact refl a
  · rw [LoginViewController.viewDidLoadDone]
    split
    · exact crash a
    · exact { refl a with }

theorem signUpDone (k : Nat) (error : Option AuthErrorCode) :
    Quiet a (SignupViewController.signUpDone a k error) := by
  rcases error with _ | _ | _ | _ | _
  · rw [SignupViewController.signUpDone]
    split
    · exact crash a
    · exact { refl a with }
  · exact showAlert k _
  · exact showAlert k _
  · exact showAlert k _
  · exact refl a

theorem settingNicknameAlert : Quiet a (LoginViewController.settingNicknameAlert a) :=
  present Nat.zero_lt_one nofun

theorem moveToNickView : Quiet a (LoginViewController.moveToNickView a) :=
  presentNickname Nat.zero_lt_two

/-- Only a login that succeeds is not quiet. -/
theorem loginButtonClickDone (error : AuthErrorCode) :
    Quiet a (LoginViewController.loginButtonClickDone a (some error)) := by
  have h : Quiet a (a.present .login (.alert "로그인 실패" "아이디 또는 패스워드를 확인하여주세요.")) :=
    present Nat.zero_lt_two nofun
  exact { h with }

theorem setDataDone (k : Nat) (ok : Bool) : Quiet a (SignupViewController.setDataDone a k ok) :=
  present (Nat.lt_succ_self 1) nofun

theorem appearAlert : Quiet a (UserSettingController.appearAlert a) :=
  present (Nat.lt_succ_self 3) nofun

theorem signUpButton : Quiet a a.signUpButton := by
  have h : Quiet { a with signups := a.signups.concat {} } a.signUpButton :=
    present Nat.zero_lt_one nofun
  exact { h with }

theorem getDocumentsDone (k : Nat) (documents : List (DocId × Document)) :
    Quiet a (SetNicknameViewController.getDocumentsDone a k documents) := by
  rw [SetNicknameViewController.getDocumentsDone]
  split
  · exact refl a
  · split
    · exact crash a
    · exact { refl a with }

end Quiet

/-- Confirming a sign-up stores the text of the sign-up screen. -/
theorem savedId_okButton (k : Nat) :
    (SignupViewController.okButton a k).savedId = some (a.signup k).emailTextField := by
  have h : Quiet { a with savedId := some (a.signup k).emailTextField }
      (SignupViewController.okButton a k) := Quiet.presentNickname (Nat.lt_succ_self 1)
  exact h.savedId

end App

end Groute
