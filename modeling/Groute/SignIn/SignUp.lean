import Groute.SignIn.Follow

/-!
# One e-mail for each sign-up?

A sign-up reads the text field of the sign-up screen at three moments: for the
account, for the document of the user, which is written when the account has been
created, and for `savedId`, when the alert after that is confirmed.  Between these
the user can edit the text, and the alert has the same button whether or not the
document was written.

`SignUp` follows one sign-up from the tap that starts it to the confirmation, in a
device that does anything else in between, other sign-ups included.  It commits one
e-mail or nothing exactly if a document is only written under a text that was the e-mail
of the account, without a slash, and the alert is only confirmed after that and while the
text is this e-mail.
-/

namespace Groute

namespace App

/-- How far a sign-up has come. -/
inductive Stage where
  /-- It is the `i`-th call to Firebase Auth. -/
  | creating (i : Nat)
  /-- The account exists; the text field showed `text` then, and the document is the `i`-th
  on its way. -/
  | writing (account text : String) (i : Nat)
  /-- The alert is presented; the document was written, or not. -/
  | alerting (account text : String) (written : Option (DocId × Fields))
  | finished

/-- The sign-up screen is the topmost and passes the checks of `doSignUp`. -/
structure Submits (a : App) (k : Nat) : Prop where
  top : a.stack.head? = some (.signup k)
  joinId : (a.signup k).joinId = ""
  email : (a.signup k).emailTextField ≠ ""
  password : (a.signup k).passwordTextfield ≠ ""
  confirm : (a.signup k).passwordConfirmTextfield ≠ ""
  same : (a.signup k).passwordTextfield = (a.signup k).passwordConfirmTextfield

/-- The nickname screens on the stack. -/
def nicknameScreens (a : App) : Nat := a.stack.countP fun | .setNickname _ => true | _ => false

/-- Neither is `savedId` changed nor a nickname screen presented. -/
structure Unchanged (a a' : App) : Prop where
  savedId : a'.savedId = a.savedId
  nicknameScreens : a'.nicknameScreens ≤ a.nicknameScreens

end App

/-- One device, and one sign-up on it. -/
structure SignUp where
  app : App
  /-- The number of the sign-up screen. -/
  k : Nat
  stage : App.Stage

namespace SignUp

/-- The button of the sign-up screen is tapped. -/
def start (a : App) (k : Nat) : SignUp where
  app := SignupViewController.signupClick a k
  k
  stage := .creating a.pending.calls.length

/-- How far the sign-up has come after an event that does not end the process.
Positions move when another call or document before it is done. -/
def advance (s : SignUp) (e : App.Event) : App.Stage :=
  match s.stage with
  | .creating i =>
      match e with
      | .complete j =>
          if j = i then
            match s.app.pending.calls[i]? with
            | some ⟨request, _, some none⟩ =>
                .writing request.account (s.app.signup s.k).emailTextField
                  s.app.pending.setDatas.length
            | _ => .finished
          else .creating (Removal.moved i j)
      | _ => .creating i
  | .writing account text i =>
      match e with
      | .setData j ok =>
          if j = i then
            -- `present` does nothing if the sign-up screen is covered
            if s.app.stack.head? = some (.signup s.k) then
              .alerting account text
                (if ok then s.app.pending.setDatas[i]?.map Prod.snd else none)
            else .finished
          else .writing account text (Removal.moved i j)
      | _ => .writing account text i
  | .alerting account text written =>
      match e with
      | .tap .okButton => .finished
      | _ => .alerting account text written
  | .finished => .finished

/-- The state after an event. -/
def step (s : SignUp) (e : App.Event) : Option SignUp :=
  (s.app.step e).map fun a =>
    { s with app := a, stage := if a.ended e then .finished else s.advance e }

/-- One device, and one sign-up on it. -/
def system : EventSystem SignUp App.Event := ⟨step⟩

/-- A document with the e-mail of an account as its identifier and as its e-mail. -/
structure IsOf (account id : DocId) (fields : Fields) : Prop where
  id : DocumentReference.documentID id = account
  email : fields.lookup "Email" = some (.string account)

/-- What the handlers of the sign-up do.  The first two store nothing, and a document that
is written is that of the account; the last one stores the e-mail of the account, of which
the document has been written, or nothing. -/
def Commits (s : SignUp) (e : App.Event) (s' : SignUp) : Prop :=
  match s.stage, e with
  | .creating i, .complete j => j = i → s.app.Unchanged s'.app
  | .writing account _ i, .setData j ok => j = i → s.app.Unchanged s'.app ∧
      (ok = true → ∀ entry ∈ s.app.pending.setDatas[i]?, IsOf account entry.2.1 entry.2.2)
  | .alerting account _ (some (id, fields)), .tap .okButton =>
      IsOf account id fields ∧ s'.app.savedId = some account
  | .alerting _ _ none, .tap .okButton => s.app.Unchanged s'.app
  | _, _ => True

/-- When the document is written, the text was the e-mail of the account, without a slash,
when the account was created; when the alert is confirmed, moreover the document has been
written, and the text is the e-mail now. -/
def Agrees (s : SignUp) (e : App.Event) : Prop :=
  match s.stage, e with
  | .writing account text i, .setData j true => j = i → text = account ∧ IsDirect account
  | .alerting account text written, .tap .okButton => written.isSome ∧ text = account ∧
      IsDirect account ∧ (s.app.signup s.k).emailTextField = account
  | _, _ => True

/-- What the handler of `createUser` makes of the text. -/
structure IsFor (text : String) (id : DocId) (fields : Fields) : Prop where
  document : CollectionReference.document text = some id
  email : fields.lookup "Email" = some (.string text)

/-- What is known of the sign-up at each stage. -/
def Inv (s : SignUp) : Prop :=
  match s.stage with
  | .creating i => ∃ email password outcome,
      s.app.pending.calls[i]? = some ⟨.createUser email password, .signUp s.k, outcome⟩
  | .writing _ text i => ∃ id fields, s.app.pending.setDatas[i]? = some (s.k, id, fields) ∧
      IsFor text id fields
  | .alerting _ text written =>
      (∃ title message rest,
        s.app.stack = .signUpAlert s.k title message :: .signup s.k :: rest) ∧
      ∀ id fields, written = some (id, fields) → IsFor text id fields
  | .finished => True

/-- The document is that of the account exactly if the text was its e-mail and names a
document of the collection. -/
theorem IsFor.isOf_iff {text account : String} {id : DocId} {fields : Fields}
    (h : IsFor text id fields) : IsOf account id fields ↔ text = account ∧ IsDirect account := by
  constructor
  · rintro ⟨hid, hemail⟩
    obtain rfl : text = account := by
      have htext := h.email.symm.trans hemail
      injection htext with htext
      injection htext
    exact ⟨rfl, (CollectionReference.documentID_eq_iff h.document).mp hid⟩
  · rintro ⟨rfl, hdirect⟩
    exact ⟨(CollectionReference.documentID_eq_iff h.document).mpr hdirect, h.email⟩

end SignUp

namespace App

variable {a : App} {presenter scene : Scene}

/-- The account is created; its document is on its way under the text of the screen. -/
theorem setDatas_signUpDone {k : Nat}
    (hlive : (SignupViewController.signUpDone a k none).stack ≠ []) :
    ∃ id fields, (SignupViewController.signUpDone a k none).pending.setDatas =
      a.pending.setDatas ++ [(k, id, fields)] ∧
        SignUp.IsFor (a.signup k).emailTextField id fields := by
  rw [SignupViewController.signUpDone] at hlive ⊢
  split at hlive
  · exact absurd rfl hlive
  · next id hdocument => exact ⟨id, _, rfl, hdocument, rfl⟩

/-- The alert is presented on the sign-up screen. -/
theorem stack_setDataDone {k : Nat} {ok : Bool} (htop : a.stack.head? = some (.signup k)) :
    ∃ title message rest, (SignupViewController.setDataDone a k ok).stack =
      .signUpAlert k title message :: .signup k :: rest := by
  obtain ⟨rest, hrest⟩ := List.head?_eq_some_iff.mp htop
  rw [SignupViewController.setDataDone, present, if_pos htop]
  exact ⟨_, _, rest, congrArg (_ :: ·) hrest⟩

namespace Unchanged

theorem crash (a : App) : Unchanged a a.crash := ⟨rfl, Nat.zero_le _⟩

/-- A screen or an alert is presented that is no nickname screen. -/
theorem present (h : ∀ k, scene ≠ .setNickname k) : Unchanged a (a.present presenter scene) where
  savedId := savedId_present
  nicknameScreens := by
    rw [App.present]
    split
    · refine Nat.le_of_eq (List.countP_cons_of_neg ?_)
      cases scene <;> first | exact absurd rfl (h _) | exact Bool.false_ne_true
    · exact Nat.le_refl _

theorem showAlert (k : Nat) (message : String) :
    Unchanged a (SignupViewController.showAlert a k message) :=
  present (by simp)

theorem setDataDone (k : Nat) (ok : Bool) :
    Unchanged a (SignupViewController.setDataDone a k ok) :=
  present (by simp)

/-- The handler of `createUser` presents an alert at most. -/
theorem signUpDone (k : Nat) (error : Option AuthErrorCode) :
    Unchanged a (SignupViewController.signUpDone a k error) := by
  rcases error with _ | _ | _ | _ | _
  · rw [SignupViewController.signUpDone]
    split
    · exact crash a
    · exact ⟨rfl, Nat.le_refl _⟩
  · exact showAlert k _
  · exact showAlert k _
  · exact showAlert k _
  · exact ⟨rfl, Nat.le_refl _⟩

end Unchanged

/-- Confirming the alert presents one more nickname screen. -/
theorem nicknameScreens_okButton {k : Nat} (htop : a.stack.head? = some (.signup k)) :
    (SignupViewController.okButton a k).nicknameScreens = a.nicknameScreens + 1 := by
  rw [SignupViewController.okButton, presentNickname, App.present, if_pos htop]
  exact List.countP_cons_of_pos rfl

end App

namespace SignUp

open App

variable {s s' : SignUp} {e : App.Event} {es : List App.Event} {a a' : App} {k i : Nat}

/-- The handler of `createUser` runs. -/
theorem inv_complete {email password : String} {outcome : Option (Option AuthErrorCode)}
    (hcall : a.pending.calls[i]? = some ⟨.createUser email password, .signUp k, outcome⟩)
    (h : a.step (.complete i) = some a') (hlive : a'.stack ≠ []) :
    Inv ⟨a', k, advance ⟨a, k, .creating i⟩ (.complete i)⟩ := by
  obtain ⟨request, completion, error, hcall', rfl⟩ := step_complete h
  cases hcall.symm.trans hcall'
  simp only [advance, if_pos, hcall]
  cases error with
  | some error => trivial
  | none =>
      obtain ⟨id, fields, hsetDatas, hisFor⟩ := setDatas_signUpDone hlive
      refine ⟨id, fields, ?_, hisFor⟩
      exact (congrArg (·[a.pending.setDatas.length]?) hsetDatas).trans
        List.getElem?_concat_length

/-- The handler of `setData` runs. -/
theorem inv_setData {ok : Bool} {account text : String} {id : DocId} {fields : Fields}
    (hentry : a.pending.setDatas[i]? = some (k, id, fields))
    (hisFor : IsFor text id fields) (h : a.step (.setData i ok) = some a') :
    Inv ⟨a', k, advance ⟨a, k, .writing account text i⟩ (.setData i ok)⟩ := by
  obtain ⟨entry, hentry', h⟩ := Option.map_eq_some_iff.mp h
  cases hentry.symm.trans hentry'
  simp only [advance, if_pos, hentry]
  split
  · next htop =>
    refine ⟨?_, fun id' fields' hwritten => ?_⟩
    · cases h
      exact stack_setDataDone htop
    · split at hwritten
      · cases hwritten
        exact hisFor
      · cases hwritten
  · trivial

/-- What is known of the sign-up is kept. -/
theorem Inv.step (h : s.Inv) (hs : s.step e = some s') : s'.Inv := by
  obtain ⟨a, ha, rfl⟩ := Option.map_eq_some_iff.mp hs
  cases hended : a.ended e with
  | true =>
      simp only [Inv, if_true]
  | false =>
      have hfollows := step_follows ha hended
      have hlive (he : e ≠ .launch) : a.stack ≠ [] := stack_of_ended hended he
      obtain ⟨app, k, stage⟩ := s
      simp only [Bool.false_eq_true, if_false]
      cases stage with
      | creating i =>
          obtain ⟨email, password, outcome, hcall⟩ := h
          by_cases hcomplete : ∃ j, e = .complete j
          · obtain ⟨j, rfl⟩ := hcomplete
            by_cases hj : j = i
            · subst hj
              exact inv_complete hcall ha (hlive (by simp))
            · simp only [advance, if_neg hj]
              exact ⟨email, password, outcome, calls_complete ha (hlive (by simp)) hj hcall⟩
          · have hne (j : Nat) : e ≠ .complete j := fun he => hcomplete ⟨j, he⟩
            have hstage : advance ⟨app, k, .creating i⟩ e = .creating i := by
              cases e <;> first | rfl | exact absurd rfl (hne _)
            rw [hstage]
            obtain ⟨outcome', hcall'⟩ := hfollows.calls hne i _ hcall
            exact ⟨email, password, outcome', hcall'⟩
      | writing account text i =>
          obtain ⟨id, fields, hentry, hisFor⟩ := h
          by_cases hsetData : ∃ j ok, e = .setData j ok
          · obtain ⟨j, ok, rfl⟩ := hsetData
            by_cases hj : j = i
            · subst hj
              exact inv_setData hentry hisFor ha
            · simp only [advance, if_neg hj]
              exact ⟨id, fields, setDatas_setData ha hj hentry, hisFor⟩
          · have hne (j : Nat) (ok : Bool) : e ≠ .setData j ok := fun he => hsetData ⟨j, ok, he⟩
            have hstage : advance ⟨app, k, .writing account text i⟩ e =
                .writing account text i := by
              cases e <;> first | rfl | exact absurd rfl (hne _ _)
            rw [hstage]
            exact ⟨id, fields, hfollows.setDatas hne i _ hentry, hisFor⟩
      | alerting account text written =>
          obtain ⟨⟨title, message, rest, hstack⟩, hisFor⟩ := h
          by_cases hok : e = .tap .okButton
          · subst hok
            trivial
          · have hstage : advance ⟨app, k, .alerting account text written⟩ e =
                .alerting account text written := by
              cases e with
              | tap t => cases t <;> first | rfl | exact absurd rfl hok
              | _ => rfl
            rw [hstage]
            exact ⟨⟨title, message, rest, (hfollows.alert hok _ _ _ _ hstack).trans hstack⟩,
              hisFor⟩
      | finished => trivial

/-- A tap of the button that starts the sign-up. -/
theorem inv_start (h : a.Submits k) : (start a k).Inv := by
  refine ⟨(a.signup k).emailTextField, (a.signup k).passwordTextfield, none, ?_⟩
  rw [start, SignupViewController.signupClick, if_pos h.joinId, SignupViewController.doSignUp]
  simp only [if_neg h.email, if_neg h.password, if_neg h.confirm, if_neg (not_not_intro h.same)]
  exact List.getElem?_concat_length

/-- What happens when the alert is confirmed. -/
theorem step_okButton {title message : String} {rest : List Scene}
    (hstack : a.stack = .signUpAlert k title message :: .signup k :: rest)
    (h : a.step (.tap .okButton) = some a') :
    a'.savedId = some (a.signup k).emailTextField ∧
      a'.nicknameScreens = a.nicknameScreens + 1 := by
  simp only [App.step, hstack] at h
  cases h
  refine ⟨savedId_okButton k, ?_⟩
  rw [nicknameScreens_okButton rfl, nicknameScreens, nicknameScreens, hstack]
  exact congrArg (· + 1) (List.countP_cons_of_neg Bool.false_ne_true).symm

/-- The handler of `setData` commits one e-mail or nothing exactly if the text agrees. -/
theorem commits_setData_iff {account text : String} {j : Nat} {ok : Bool}
    (h : Inv ⟨a, k, .writing account text i⟩) (ha : a.step (.setData j ok) = some a')
    (stage : Stage) :
    Commits ⟨a, k, .writing account text i⟩ (.setData j ok) ⟨a', k, stage⟩ ↔
      Agrees ⟨a, k, .writing account text i⟩ (.setData j ok) := by
  obtain ⟨id, fields, hentry, hisFor⟩ := h
  obtain ⟨⟨k', id', fields'⟩, -, rfl⟩ := Option.map_eq_some_iff.mp ha
  have hunchanged : a.Unchanged (SignupViewController.setDataDone { a with
      users := if ok then a.users.set id' (.ofFields fields') else a.users
      pending.setDatas := a.pending.setDatas.eraseIdx j } k' ok) :=
    { Unchanged.setDataDone k' ok with }
  cases ok with
  | false => exact iff_of_true (fun _ => ⟨hunchanged, nofun⟩) trivial
  | true =>
      refine imp_congr_right fun _ => ?_
      rw [and_iff_right hunchanged, hentry]
      constructor
      · exact fun hcommits => hisFor.isOf_iff.mp (hcommits rfl _ rfl)
      · rintro hagrees - entry ⟨⟩
        exact hisFor.isOf_iff.mpr hagrees

/-- So does the button of the alert. -/
theorem commits_okButton_iff {account text : String} {written : Option (DocId × Fields)}
    (h : Inv ⟨a, k, .alerting account text written⟩) (ha : a.step (.tap .okButton) = some a')
    (stage : Stage) :
    Commits ⟨a, k, .alerting account text written⟩ (.tap .okButton) ⟨a', k, stage⟩ ↔
      Agrees ⟨a, k, .alerting account text written⟩ (.tap .okButton) := by
  obtain ⟨⟨title, message, rest, hstack⟩, hisFor⟩ := h
  obtain ⟨hsaved, hscreens⟩ := step_okButton hstack ha
  cases written with
  | none =>
      refine iff_of_false (fun hunchanged => ?_) ?_
      · exact Nat.not_succ_le_self _ (hscreens.symm.le.trans hunchanged.nicknameScreens)
      · rintro ⟨⟨⟩, -⟩
  | some written =>
      obtain ⟨id, fields⟩ := written
      have hisFor' := hisFor id fields rfl
      constructor
      · rintro ⟨hisOf, hid⟩
        obtain ⟨htext, hdirect⟩ := hisFor'.isOf_iff.mp hisOf
        exact ⟨rfl, htext, hdirect, Option.some.inj (hsaved.symm.trans hid)⟩
      · rintro ⟨-, htext, hdirect, hnow⟩
        exact ⟨hisFor'.isOf_iff.mpr ⟨htext, hdirect⟩, hsaved.trans (congrArg some hnow)⟩

/-- The sign-up commits one e-mail or nothing exactly if the text agrees. -/
theorem Inv.commits_iff (h : s.Inv) (hs : s.step e = some s') : s.Commits e s' ↔ s.Agrees e := by
  obtain ⟨a', ha, rfl⟩ := Option.map_eq_some_iff.mp hs
  obtain ⟨a, k, stage⟩ := s
  cases stage with
  | creating i =>
      cases e with
      | complete j =>
          refine iff_of_true (fun hj => ?_) trivial
          subst hj
          obtain ⟨email, password, outcome, hcall⟩ := h
          obtain ⟨request, completion, error, hcall', rfl⟩ := step_complete ha
          cases hcall.symm.trans hcall'
          exact { Unchanged.signUpDone k error with }
      | _ => exact iff_of_true trivial trivial
  | writing account text i =>
      cases e with
      | setData j ok => exact commits_setData_iff h ha _
      | _ => exact iff_of_true trivial trivial
  | alerting account text written =>
      by_cases hok : e = .tap .okButton
      · subst hok
        exact commits_okButton_iff h ha _
      · rcases written with _ | ⟨id, fields⟩ <;> cases e with
        | tap t =>
            cases t <;> first
              | exact absurd rfl hok
              | exact iff_of_true trivial trivial
        | _ => exact iff_of_true trivial trivial
  | finished => exact iff_of_true trivial trivial

/-- **One e-mail or nothing.**  A sign-up, whatever else the device does, commits one
e-mail or nothing exactly if its document is only written when the text was the e-mail of
the account, without a slash, and its alert is only confirmed when this has happened and
the text is the e-mail of the account again. -/
theorem steps_commits_iff (h₀ : a.Submits k) (h : system.Runs (start a k) es s) :
    (∀ fs e b b', fs ++ [e] <+: es → system.Runs (start a k) fs b → b.step e = some b' →
      b.Commits e b') ↔ system.Steps Agrees (start a k) es s := by
  refine h.forall_steps_iff.trans ?_
  refine h.iff_steps (I := Inv) (fun hI _ _ hs => hI.step hs) (fun hI _ hs => ?_) (inv_start h₀)
  exact (EventSystem.forall_next_iff hs).trans (hI.commits_iff hs)

instance (s : SignUp) (e : App.Event) : Decidable (s.Agrees e) := by
  unfold Agrees
  split <;> infer_instance

/-- The sign-up screen is filled in. -/
def filled : App where
  stack := [.signup 0, .login]
  signups := [⟨"a@b.c", "secret", "secret", ""⟩]

theorem submits_filled : filled.Submits 0 :=
  ⟨rfl, rfl, by decide, by decide, by decide, rfl⟩

/-- The account is created, the document is written or not, and the alert is there. -/
def alerted (ok : Bool) : List App.Event := [.authenticate 0 none, .complete 0, .setData 0 ok]

theorem alerted_commits : ∃ s, system.Runs (start filled 0) (alerted true ++ [.tap .okButton]) s ∧
    ∀ fs e b b', fs ++ [e] <+: alerted true ++ [.tap .okButton] →
      system.Runs (start filled 0) fs b → b.step e = some b' → b.Commits e b' := by
  obtain ⟨s, hrun, -⟩ := EventSystem.exists_steps_of_exec system Agrees (start filled 0)
    (alerted true ++ [.tap .okButton]) (fun _ => true) (by decide)
  exact ⟨s, hrun.runs, (steps_commits_iff submits_filled hrun.runs).mpr hrun⟩

/-- The button stores the e-mail and goes on also if the document was not written. -/
theorem exists_not_commits : ¬∀ {a : App} {k : Nat} {es : List App.Event} {s : SignUp},
    a.Submits k → system.Runs (start a k) es s →
    ∀ fs e b b', fs ++ [e] <+: es → system.Runs (start a k) fs b → b.step e = some b' →
      b.Commits e b' := by
  intro hall
  obtain ⟨s, hrun, hs⟩ := EventSystem.exists_runs_of_exec system (start filled 0) (alerted false)
    (fun s => (s.step (.tap .okButton)).isSome && !decide (s.Agrees (.tap .okButton))) (by decide)
  obtain ⟨hstep, hagrees⟩ := Bool.and_eq_true_iff.mp hs
  obtain ⟨s', hstep⟩ : ∃ s', system.step s (.tap .okButton) = some s' :=
    Option.isSome_iff_exists.mp hstep
  have hinv : s.Inv := hrun.invariant (fun hI _ hs => hI.step hs) (inv_start submits_filled)
  have hcommits := hall submits_filled (hrun.snoc trivial hstep) _ _ s s' (List.prefix_refl _)
    hrun hstep
  rw [hinv.commits_iff hstep] at hcommits
  rw [decide_eq_true hcommits] at hagrees
  cases hagrees

end SignUp

end Groute
