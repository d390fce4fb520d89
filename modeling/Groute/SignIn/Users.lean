import Groute.SignIn.Identity

/-!
# The collection `User`

Sign-up writes a document under the text that the text field shows, which Firestore takes
for a path, and the nickname screen updates the documents that it finds for `savedId`.  It
reads `savedId` once for the query and once more for the update, and in between another
account can have been stored: then the document of one user gets the e-mail of another.

`App.Registry` says that every document is found under its own e-mail, and that nothing on
its way changes that.  It lasts exactly as long as every answer comes while `savedId` is
what it was asked for, and Firestore takes every text of a sign-up as it is.  And a nickname
that has been written once stays, across launches.
-/

namespace Groute

/-- A document of `User` under its own e-mail; it has a nickname if it says so. -/
structure Document.IsUser (d : Document) (id : DocId) : Prop where
  email : d.get "Email" = some (.string id)
  nickname : d.string "ExistNickname" = some "false" ∨
    d.string "ExistNickname" = some "true" ∧ (d.string "Nickname").isSome

/-- The document says that there is a nickname, and there is one. -/
structure Document.IsNamed (d : Document) : Prop where
  existNickname : d.string "ExistNickname" = some "true"
  nickname : (d.string "Nickname").isSome

namespace SetNicknameViewController

variable {d : Document} {savedId savedId' nickname nickname' : String}

/-- The fields are about one e-mail. -/
theorem eq_of_fields (h : fields savedId nickname = fields savedId' nickname') :
    savedId = savedId' := by
  injection h with hemail
  injection hemail with _ hemail
  injection hemail

/-- What the update makes of a document. -/
theorem isUser_updateData (d : Document) (savedId nickname : String) :
    (d.updateData (fields savedId nickname)).IsUser savedId :=
  ⟨rfl, .inr ⟨rfl, rfl⟩⟩

end SetNicknameViewController

namespace App

variable {a a' a₀ b c : App} {e : Event} {es fs : List Event} {presenter top scene : Scene}
  {rest : List Scene} {id : DocId}

/-! ## What is on its way -/

/-- Nothing new is on its way to `User`. -/
structure Idle (a a' : App) : Prop where
  users : a'.users = a.users
  setDatas : a'.pending.setDatas ⊆ a.pending.setDatas
  updates : a'.pending.updates ⊆ a.pending.updates

namespace Idle

theorem refl (a : App) : Idle a a := ⟨rfl, List.Subset.refl _, List.Subset.refl _⟩

theorem crash (a : App) : Idle a a.crash := ⟨rfl, List.nil_subset _, List.nil_subset _⟩

theorem launch (a : App) : Idle a a.launch := ⟨rfl, List.nil_subset _, List.nil_subset _⟩

theorem present (presenter scene : Scene) : Idle a (a.present presenter scene) := by
  rw [App.present]
  split <;> exact { refl a with }

theorem dismiss (scene : Scene) : Idle a (a.dismiss scene) := by
  rw [App.dismiss]
  split <;> exact { refl a with }

theorem presentNickname (presenter : Scene) : Idle a (a.presentNickname presenter) := by
  have h : Idle { a with nicknames := a.nicknames.concat {} } (a.presentNickname presenter) :=
    present presenter _
  exact { h with }

theorem signupClick (k : Nat) : Idle a (SignupViewController.signupClick a k) := by
  rcases SignupViewController.signupClick_cases a k with ⟨message, hclick⟩ |
    ⟨email, password, hclick⟩ | hclick
  · rw [hclick]
    exact present _ _
  · rw [hclick]
    exact { refl a with }
  · rw [hclick]
    exact refl a

theorem setNickname (k : Nat) : Idle a (SetNicknameViewController.setNickname a k) := by
  rw [SetNicknameViewController.setNickname]
  split
  · exact crash a
  · next savedId _ =>
    have h : Idle { a with pending.queries := a.pending.queries ++ [(k, savedId)] } _ :=
      present (.setNickname k) .navigation
    exact { h with }

theorem viewDidLoadDone (getSavedidinfo : Option String) :
    Idle a (LoginViewController.viewDidLoadDone a getSavedidinfo) := by
  cases getSavedidinfo with
  | none => exact refl a
  | some savedId =>
      rw [LoginViewController.viewDidLoadDone]
      split
      · exact crash a
      · exact { refl a with }

theorem loginButtonClickDone (error : Option AuthErrorCode) :
    Idle a (LoginViewController.loginButtonClickDone a error) := by
  cases error with
  | none =>
      have h : Idle { a with savedId := some a.login.idTextfield } _ := present .login .navigation
      exact { h with }
  | some error =>
      have h : Idle a _ := present .login (.alert "로그인 실패" "아이디 또는 패스워드를 확인하여주세요.")
      exact { h with }

theorem getDocumentDone (document : Option Document) :
    Idle a (LoginViewController.getDocumentDone a document) := by
  cases document with
  | none => exact refl a
  | some document =>
      rw [LoginViewController.getDocumentDone]
      split <;> exact present _ _

end Idle

/-- A tap sends nothing to `User`. -/
theorem idle_react {t : Tap} (h : a.react rest top t = some a') : Idle a a' := by
  revert h
  fun_cases react a rest top t <;> rintro ⟨⟩
  case case3 =>
    have h : Idle { a with signups := a.signups.concat {} } a.signUpButton := .present _ _
    exact { h with }
  case case4 k => exact .signupClick k
  case case6 k => exact .setNickname k
  case case7 => exact .present _ _
  case case9 =>
    have h : Idle { a with stack := rest }
        (LoginViewController.moveToNickView { a with stack := rest }) := .presentNickname _
    exact { h with }
  case case11 k _ _ =>
    have h : Idle { a with stack := rest, savedId := _ }
        (SignupViewController.okButton { a with stack := rest } k) := .presentNickname _
    exact { h with }
  case case12 =>
    have h : Idle { a with stack := rest, savedId := none }
        (UserSettingController.logout { a with stack := rest }) := .dismiss _
    exact { h with }
  all_goals exact { Idle.refl a with }

/-- The fields that the handler of `createUser` sends. -/
def newUser (email : String) : Fields :=
  [("Email", .string email), ("ExistNickname", .string "false")]

/-- Where a sign-up sends the document of which user, if its account was created. -/
def signedUp (a : App) (call : Call) : Option (DocId × String) :=
  match call.completion, call.outcome with
  | .signUp k, some none =>
      (CollectionReference.document (a.signup k).emailTextField).map fun id =>
        (id, (a.signup k).emailTextField)
  | _, _ => none

/-- The document that the handler of `createUser` sends. -/
theorem idle_signUpDone (k : Nat) (error : Option AuthErrorCode) :
    Idle a (SignupViewController.signUpDone a k error) ∨
      error = none ∧ ∃ id,
        CollectionReference.document (a.signup k).emailTextField = some id ∧
        SignupViewController.signUpDone a k error =
          { a with pending.setDatas := a.pending.setDatas ++
            [(k, id, newUser (a.signup k).emailTextField)] } := by
  rcases error with _ | _ | _ | _ | _
  · rw [SignupViewController.signUpDone]
    split
    · exact .inl (.crash a)
    · next id hdocument => exact .inr ⟨rfl, id, hdocument, rfl⟩
  · exact .inl (.present _ _)
  · exact .inl (.present _ _)
  · exact .inl (.present _ _)
  · exact .inl (.refl a)

/-- What the events send to `User`. -/
inductive Sends (a : App) (e : Event) (a' : App) : Prop
  /-- Nothing. -/
  | idle (h : Idle a a')
  /-- A sign-up sends a document. -/
  | signUp (i k : Nat) (call : Call) (id : DocId) (email : String) (he : e = .complete i)
      (hi : a.pending.calls[i]? = some call) (hsent : a.signedUp call = some (id, email))
      (users : a'.users = a.users)
      (setDatas : a'.pending.setDatas = a.pending.setDatas ++ [(k, id, newUser email)])
      (updates : a'.pending.updates ⊆ a.pending.updates)
  /-- A document of a sign-up is written. -/
  | setData (i : Nat) (k : Nat) (id : DocId) (fields : Fields) (he : e = .setData i true)
      (hi : a.pending.setDatas[i]? = some (k, id, fields))
      (users : a'.users = a.users.set id (.ofFields fields))
      (setDatas : a'.pending.setDatas ⊆ a.pending.setDatas)
      (updates : a'.pending.updates ⊆ a.pending.updates)
  /-- The nickname screen sends updates for the documents that it has found. -/
  | updates (i k : Nat) (email savedId nickname : String) (he : e = .getDocuments i true)
      (hi : a.pending.queries[i]? = some (k, email)) (hsaved : a.savedId = some savedId)
      (hfound : a.usersWithEmail email ≠ []) (users : a'.users = a.users)
      (setDatas : a'.pending.setDatas ⊆ a.pending.setDatas)
      (updates : a'.pending.updates = a.pending.updates ++
        (a.usersWithEmail email).map fun document =>
          (document.1, SetNicknameViewController.fields savedId nickname))
  /-- An update is carried out. -/
  | updateData (i : Nat) (id : DocId) (fields : Fields) (he : e = .updateData i true)
      (hi : a.pending.updates[i]? = some (id, fields))
      (users : a'.users = a.users.modify id (·.updateData fields))
      (setDatas : a'.pending.setDatas ⊆ a.pending.setDatas)
      (updates : a'.pending.updates ⊆ a.pending.updates)
  /-- Other devices write. -/
  | others (he : e = .others a'.users) (setDatas : a'.pending.setDatas ⊆ a.pending.setDatas)
      (updates : a'.pending.updates ⊆ a.pending.updates)

/-- The answer of the nickname screen's query. -/
theorem sends_getDocuments {i : Nat} {ok : Bool} (h : a.step (.getDocuments i ok) = some a') :
    Sends a (.getDocuments i ok) a' := by
  obtain ⟨⟨k, email⟩, hi, rfl⟩ := Option.map_eq_some_iff.mp h
  cases ok with
  | false => exact .idle { Idle.refl a with }
  | true =>
      show Sends a _ (SetNicknameViewController.getDocumentsDone _ k (a.usersWithEmail email))
      rw [SetNicknameViewController.getDocumentsDone]
      split
      · exact .idle { Idle.refl a with }
      · next hempty =>
        split
        · exact .idle { Idle.crash a with }
        · next savedId hsaved =>
          refine .updates i k email savedId _ rfl hi hsaved ?_ rfl (List.Subset.refl _) rfl
          exact fun hnil => hempty (List.isEmpty_iff.mpr hnil)

/-- What any event sends. -/
theorem step_sends (h : a.step e = some a') : Sends a e a' := by
  cases e with
  | launch =>
      cases h
      exact .idle (.launch a)
  | tap t =>
      obtain ⟨top, rest, -, h⟩ := step_tap h
      exact .idle (idle_react h)
  | editLogin | editSignup | editNickname =>
      obtain ⟨-, ⟨⟩⟩ := Option.ite_none_right_eq_some.mp h
      exact .idle { Idle.refl a with }
  | sign user =>
      obtain ⟨-, ⟨⟩⟩ := Option.ite_none_right_eq_some.mp h
      rcases user with _ | ⟨idToken, email⟩ <;> exact .idle { Idle.refl a with }
  | authenticate i error =>
      obtain ⟨request, completion, -, rfl⟩ := step_authenticate h
      exact .idle { Idle.refl a with }
  | complete i =>
      obtain ⟨request, completion, error, hi, rfl⟩ := step_complete h
      cases completion with
      | viewDidLoad getSavedidinfo => exact .idle { Idle.viewDidLoadDone getSavedidinfo with }
      | loginButtonClick => exact .idle { Idle.loginButtonClickDone error with }
      | sign idToken =>
          have h : Idle
              { a with savedId := some idToken, pending.calls := a.pending.calls.eraseIdx i }
              (present _ .login .navigation) := .present .login .navigation
          exact .idle { h with }
      | signUp k =>
          rcases idle_signUpDone (a := { a with pending.calls := a.pending.calls.eraseIdx i }) k
            error with hidle | ⟨rfl, id, hdocument, heq⟩
          · exact .idle { hidle with }
          · rw [completed, heq]
            have hsent : a.signedUp ⟨request, .signUp k, some none⟩ =
                some (id, (a.signup k).emailTextField) :=
              Option.map_eq_some_iff.mpr ⟨id, hdocument, rfl⟩
            exact .signUp i k _ id _ rfl hi hsent rfl rfl (List.Subset.refl _)
  | getDocument i ok =>
      obtain ⟨id, -, rfl⟩ := Option.map_eq_some_iff.mp h
      exact .idle { Idle.getDocumentDone _ with }
  | setData i ok =>
      obtain ⟨⟨k, id, fields⟩, hi, rfl⟩ := Option.map_eq_some_iff.mp h
      have hidle : Idle
          { a with
            users := if ok then a.users.set id (.ofFields fields) else a.users
            pending.setDatas := a.pending.setDatas.eraseIdx i }
          (SignupViewController.setDataDone _ k ok) := .present (.signup k) _
      have hsubset := List.Subset.trans hidle.setDatas List.eraseIdx_subset
      cases ok with
      | false => exact .idle ⟨hidle.users, hsubset, hidle.updates⟩
      | true => exact .setData i k id fields rfl hi hidle.users hsubset hidle.updates
  | getDocuments i ok => exact sends_getDocuments h
  | updateData i ok =>
      obtain ⟨⟨id, fields⟩, hi, rfl⟩ := Option.map_eq_some_iff.mp h
      cases ok with
      | false => exact .idle { Idle.refl a with updates := List.eraseIdx_subset }
      | true => exact .updateData i id fields rfl hi rfl (List.Subset.refl _) List.eraseIdx_subset
  | others users =>
      cases h
      exact .others rfl (List.Subset.refl _) (List.Subset.refl _)

/-- The writes on their way to `User` meet `P` if a sign-up sent them and `Q` if a nickname
screen did. -/
structure Carries (P Q : DocId → Fields → Prop) (a : App) : Prop where
  setDatas : ∀ {k id fields}, (k, id, fields) ∈ a.pending.setDatas → P id fields
  updates : ∀ {id fields}, (id, fields) ∈ a.pending.updates → Q id fields

/-- What is sent decides what is on its way. -/
theorem Carries.step {P Q : DocId → Fields → Prop} (hc : a.Carries P Q) (h : a.step e = some a')
    (hP : ∀ {i call id email}, e = .complete i → a.pending.calls[i]? = some call →
      a.signedUp call = some (id, email) → P id (newUser email))
    (hQ : ∀ {i k email savedId id d}, e = .getDocuments i true →
      a.pending.queries[i]? = some (k, email) → a.savedId = some savedId →
      (id, d) ∈ a.usersWithEmail email →
        ∀ nickname, Q id (SetNicknameViewController.fields savedId nickname)) :
    a'.Carries P Q := by
  rcases step_sends h with hidle | ⟨i, k, call, id, email, he, hi, hsent, -, hsetDatas, hupdates⟩ |
    ⟨i, k, id, fields, he, hi, -, hsetDatas, hupdates⟩ |
    ⟨i, k, email, savedId, nickname, he, hi, hsaved, -, -, hsetDatas, hupdates⟩ |
    ⟨i, id, fields, he, hi, -, hsetDatas, hupdates⟩ | ⟨he, hsetDatas, hupdates⟩
  · exact ⟨fun hmem => hc.setDatas (hidle.setDatas hmem),
      fun hmem => hc.updates (hidle.updates hmem)⟩
  · refine ⟨fun hmem => ?_, fun hmem => hc.updates (hupdates hmem)⟩
    rw [hsetDatas] at hmem
    rcases List.mem_append.mp hmem with hmem | hmem
    · exact hc.setDatas hmem
    · cases List.mem_singleton.mp hmem
      exact hP he hi hsent
  · exact ⟨fun hmem => hc.setDatas (hsetDatas hmem), fun hmem => hc.updates (hupdates hmem)⟩
  · refine ⟨fun hmem => hc.setDatas (hsetDatas hmem), fun hmem => ?_⟩
    rw [hupdates] at hmem
    rcases List.mem_append.mp hmem with hmem | hmem
    · exact hc.updates hmem
    · obtain ⟨⟨id, d⟩, hd, ⟨⟩⟩ := List.mem_map.mp hmem
      exact hQ he hi hsaved hd nickname
  · exact ⟨fun hmem => hc.setDatas (hsetDatas hmem), fun hmem => hc.updates (hupdates hmem)⟩
  · exact ⟨fun hmem => hc.setDatas (hsetDatas hmem), fun hmem => hc.updates (hupdates hmem)⟩

/-! ## Every document under its own e-mail -/

/-- A write that leaves a document, or makes one, under its own e-mail. -/
def Keyed (id : DocId) (fields : Fields) : Prop :=
  ∃ nickname, fields = SetNicknameViewController.fields id nickname

/-- Every document is found under its own e-mail, and no write on its way changes that. -/
structure Registry (a : App) : Prop where
  users : ∀ {id d}, a.users.get id = some d → d.IsUser id
  carries : a.Carries (fun id fields => (Document.ofFields fields).IsUser id) Keyed

/-- The other devices keep the documents under their own e-mails. -/
def OthersWell (_ : App) : Event → Prop
  | .others users => ∀ id d, users.get id = some d → d.IsUser id
  | _ => True

/-- What the nickname screen finds, it finds while `savedId` is what it has asked for, and a
sign-up sends the document of a user to where its e-mail is. -/
def OwnEmail (a : App) : Event → Prop
  | .getDocuments i true => ∀ query ∈ a.pending.queries[i]?, a.usersWithEmail query.2 ≠ [] →
      ∀ savedId ∈ a.savedId, savedId = query.2
  | .complete i => ∀ call ∈ a.pending.calls[i]?, ∀ sent ∈ a.signedUp call, sent.1 = sent.2
  | _ => True

/-- A query finds no document but that of the e-mail. -/
theorem Registry.eq_of_mem_usersWithEmail {email : String} {d : Document} (h : a.Registry)
    (hmem : (id, d) ∈ a.usersWithEmail email) : id = email := by
  obtain ⟨hget, hemail⟩ := Collection.mem_query_iff.mp (List.mem_filter.mp hmem).1
  have hid := (h.users hget).email.symm.trans (of_decide_eq_true hemail)
  injection hid with hid
  injection hid

/-- The updates that the answer of the query sends. -/
theorem updates_getDocuments {i k : Nat} {email savedId : String}
    (h : a.step (.getDocuments i true) = some a') (hi : a.pending.queries[i]? = some (k, email))
    (hfound : a.usersWithEmail email ≠ []) (hsaved : a.savedId = some savedId) :
    ∃ nickname, a'.pending.updates = a.pending.updates ++
      (a.usersWithEmail email).map fun document =>
        (document.1, SetNicknameViewController.fields savedId nickname) := by
  obtain ⟨⟨k', email'⟩, hi', rfl⟩ := Option.map_eq_some_iff.mp h
  cases hi.symm.trans hi'
  show ∃ nickname, (SetNicknameViewController.getDocumentsDone _ k
    (a.usersWithEmail email)).pending.updates = _
  rw [SetNicknameViewController.getDocumentsDone,
    if_neg fun hempty => hfound (List.isEmpty_iff.mp hempty)]
  simp only [hsaved]
  exact ⟨_, rfl⟩

/-- The document that a sign-up sends. -/
theorem setDatas_complete {i : Nat} {call : Call} {email : String}
    (h : a.step (.complete i) = some a') (hi : a.pending.calls[i]? = some call)
    (hsent : a.signedUp call = some (id, email)) :
    ∃ k, (k, id, newUser email) ∈ a'.pending.setDatas := by
  obtain ⟨request, completion, error, hi', rfl⟩ := step_complete h
  cases hi.symm.trans hi'
  cases completion with
  | viewDidLoad | loginButtonClick | sign => cases hsent
  | signUp k =>
      cases error with
      | some error => cases hsent
      | none =>
          obtain ⟨id', hdocument, ⟨⟩⟩ := Option.map_eq_some_iff.mp hsent
          refine ⟨k, ?_⟩
          show _ ∈ (SignupViewController.signUpDone _ k none).pending.setDatas
          simp only [SignupViewController.signUpDone, App.signup] at hdocument ⊢
          rw [hdocument]
          exact List.mem_concat_self

/-- The fields name one e-mail. -/
theorem email_of_newUser {email : String} (h : (Document.ofFields (newUser email)).IsUser id) :
    id = email := by
  have hemail : some (Value.string email) = some (.string id) := h.email
  injection hemail with hemail
  injection hemail with hemail
  exact hemail.symm

/-- Documents after a write that keeps them under their own e-mails. -/
theorem Registry.users_step (h : a.Registry) (ho : a.OthersWell e) (hs : a.step e = some a')
    {d : Document} (hget : a'.users.get id = some d) : d.IsUser id := by
  rcases step_sends hs with hidle | ⟨i, k, call, id', email, he, hi, hsent, husers, -, -⟩ |
    ⟨i, k, id', fields, he, hi, husers, -, -⟩ |
    ⟨i, k, email, savedId, nickname, he, hi, -, -, husers, -, -⟩ |
    ⟨i, id', fields, he, hi, husers, -, -⟩ | ⟨rfl, -, -⟩
  · rw [hidle.users] at hget
    exact h.users hget
  · rw [husers] at hget
    exact h.users hget
  · rw [husers] at hget
    by_cases hid : id = id'
    · subst hid
      rw [Collection.get_set_self] at hget
      cases hget
      exact h.carries.setDatas (List.mem_of_getElem? hi)
    · rw [Collection.get_set_of_ne _ _ hid] at hget
      exact h.users hget
  · rw [husers] at hget
    exact h.users hget
  · rw [husers] at hget
    by_cases hid : id = id'
    · subst hid
      rw [Collection.get_modify_self] at hget
      obtain ⟨d', -, rfl⟩ := Option.map_eq_some_iff.mp hget
      obtain ⟨nickname, rfl⟩ := h.carries.updates (List.mem_of_getElem? hi)
      exact SetNicknameViewController.isUser_updateData d' id nickname
    · rw [Collection.get_modify_of_ne _ _ hid] at hget
      exact h.users hget
  · exact ho id d hget

/-- An event keeps the registry exactly if it meets the condition. -/
theorem Registry.step_iff (h : a.Registry) (ho : a.OthersWell e) (hs : a.step e = some a') :
    a'.Registry ↔ a.OwnEmail e := by
  constructor
  · intro h'
    unfold OwnEmail
    split
    · next i =>
      rintro ⟨k, email⟩ hi hfound savedId hsaved
      obtain ⟨nickname, hupdates⟩ := updates_getDocuments hs hi hfound hsaved
      obtain ⟨⟨id, d⟩, hd⟩ := List.exists_mem_of_ne_nil _ hfound
      have hmem : (id, SetNicknameViewController.fields savedId nickname) ∈
          a'.pending.updates := by
        rw [hupdates]
        exact List.mem_append_right _ (List.mem_map.mpr ⟨(id, d), hd, rfl⟩)
      obtain ⟨nickname', hfields⟩ := h'.carries.updates hmem
      rw [SetNicknameViewController.eq_of_fields hfields]
      exact h.eq_of_mem_usersWithEmail hd
    · next i =>
      rintro call hi ⟨id, email⟩ hsent
      obtain ⟨k, hmem⟩ := setDatas_complete hs hi hsent
      exact email_of_newUser (h'.carries.setDatas hmem)
    · trivial
  · intro hown
    refine ⟨h.users_step ho hs, h.carries.step hs ?_ ?_⟩
    · rintro i call id email rfl hi hsent
      obtain rfl : id = email := hown call hi (id, email) hsent
      exact ⟨rfl, .inl rfl⟩
    · rintro i k email savedId id d rfl hi hsaved hd nickname
      have hsavedId : savedId = email := hown (k, email) hi (List.ne_nil_of_mem hd) savedId hsaved
      rw [hsavedId, h.eq_of_mem_usersWithEmail hd]
      exact ⟨nickname, rfl⟩

/-- **One document for each user.**  As long as the other devices do the same, every document
stays under its own e-mail exactly if the nickname screen gets its answers while `savedId` is
what it has asked for, and the text of every sign-up, when its account is there, is the path
that Firestore makes of it. -/
theorem steps_registry_iff (h₀ : a₀.Registry) (h : system.Steps OthersWell a₀ es a) :
    (∀ fs b, fs <+: es → system.Runs a₀ fs b → b.Registry) ↔ system.Steps OwnEmail a₀ es a := by
  rw [h.runs.forall_prefix_iff, and_iff_right h₀]
  refine h.iff_steps (I := Registry) (fun _ _ hnext hs => hnext _ hs) (fun hI ho hs => ?_) h₀
  exact (EventSystem.forall_next_iff hs).trans (hI.step_iff ho hs)

instance (a : App) (e : Event) : Decidable (a.OwnEmail e) :=
  match e with
  | .getDocuments i true => inferInstanceAs (Decidable (∀ query ∈ a.pending.queries[i]?,
      a.usersWithEmail query.2 ≠ [] → ∀ savedId ∈ a.savedId, savedId = query.2))
  | .complete i => inferInstanceAs (Decidable (∀ call ∈ a.pending.calls[i]?,
      ∀ sent ∈ a.signedUp call, sent.1 = sent.2))
  | .getDocuments _ false | .launch | .tap _ | .editLogin _ _ | .editSignup _ _ _ _
  | .editNickname _ _ | .sign _ | .authenticate _ _ | .getDocument _ _
  | .setData _ _ | .updateData _ _ | .others _ => inferInstanceAs (Decidable True)

/-- A user signs up and sets a nickname; the update is on its way. -/
def nicknamed : List Event := [.launch, .tap .signUpButton,
  .editSignup 0 "a@b.c" "secret" "secret", .tap .signupClick, .authenticate 1 none, .complete 1,
  .setData 0 true, .tap .okButton, .editNickname 0 "kim", .tap .setNickname, .getDocuments 0 true]

theorem nicknamed_registry : ∃ a, system.Runs {} nicknamed a ∧
    ∀ fs b, fs <+: nicknamed → system.Runs {} fs b → b.Registry := by
  obtain ⟨a, hrun, -⟩ := EventSystem.exists_steps_of_exec system OwnEmail {} nicknamed
    (fun _ => true) (by decide)
  have hothers : system.Steps OthersWell {} nicknamed a :=
    hrun.of_forall (by simp [nicknamed, OthersWell])
  refine ⟨a, hrun.runs, (steps_registry_iff ⟨?_, ⟨?_, ?_⟩⟩ hothers).mpr hrun⟩
  · intro id d hget
    cases hget
  · intro k id fields hmem
    cases hmem
  · intro id fields hmem
    cases hmem

/-! ## A nickname stays -/

/-- A user has a nickname. -/
def Named (users : Collection DocId Document) (id : DocId) : Prop :=
  ∃ d, users.get id = some d ∧ d.IsNamed

/-- Sign-ups send documents without a nickname, and nickname screens send nicknames. -/
abbrev Shaped : App → Prop :=
  Carries (fun _ fields => (Document.ofFields fields).string "ExistNickname" = some "false")
    fun _ fields => ∃ savedId nickname, fields = SetNicknameViewController.fields savedId nickname

/-- No sign-up writes the document anew, and the other devices leave a nickname there. -/
def KeepsNickname (id : DocId) (a : App) : Event → Prop
  | .setData i true => ∀ entry ∈ a.pending.setDatas[i]?, entry.2.1 ≠ id
  | .others users => Named users id
  | _ => True

theorem Shaped.step (h : a.Shaped) (hs : a.step e = some a') : a'.Shaped :=
  Carries.step h hs (fun _ _ _ => rfl) fun _ _ _ _ nickname => ⟨_, nickname, rfl⟩

theorem NotRunning.shaped (h : a.NotRunning) : a.Shaped := by
  constructor
  · intro k id fields hmem
    rw [h.pending] at hmem
    cases hmem
  · intro id fields hmem
    rw [h.pending] at hmem
    cases hmem

/-- An update gives a nickname to whom it finds. -/
theorem named_modify {users : Collection DocId Document} (h : (users.get id).isSome)
    (savedId nickname : String) :
    Named (users.modify id (·.updateData (SetNicknameViewController.fields savedId nickname)))
      id := by
  obtain ⟨d, hd⟩ := Option.isSome_iff_exists.mp h
  refine ⟨d.updateData (SetNicknameViewController.fields savedId nickname), ?_, ⟨rfl, rfl⟩⟩
  rw [Collection.get_modify_self, hd, Option.map_some]

/-- And it leaves the nicknames of the others. -/
theorem Named.modify {users : Collection DocId Document} (h : Named users id) (id' : DocId)
    (savedId nickname : String) :
    Named (users.modify id' (·.updateData (SetNicknameViewController.fields savedId nickname)))
      id := by
  obtain ⟨d, hd, hisNamed⟩ := h
  by_cases hid : id = id'
  · subst hid
    exact named_modify (Option.isSome_iff_exists.mpr ⟨d, hd⟩) savedId nickname
  · exact ⟨d, (Collection.get_modify_of_ne _ _ hid).trans hd, hisNamed⟩

/-- The collection after an update. -/
theorem users_updateData {i : Nat} {fields : Fields}
    (hi : a.pending.updates[i]? = some (id, fields))
    (hs : a.step (.updateData i true) = some a') :
    a'.users = a.users.modify id (·.updateData fields) := by
  obtain ⟨⟨id', fields'⟩, hi', rfl⟩ := Option.map_eq_some_iff.mp hs
  cases hi.symm.trans hi'
  rfl

/-- The collection after the document of a sign-up is written. -/
theorem users_setData {i k : Nat} {fields : Fields}
    (hi : a.pending.setDatas[i]? = some (k, id, fields))
    (hs : a.step (.setData i true) = some a') :
    a'.users = a.users.set id (.ofFields fields) := by
  obtain ⟨⟨k', id', fields'⟩, hi', rfl⟩ := Option.map_eq_some_iff.mp hs
  cases hi.symm.trans hi'
  exact (Idle.present (.signup k) _).users

/-- An event leaves a nickname exactly if it meets the condition. -/
theorem named_step_iff (h : a.Shaped) (hnamed : Named a.users id) (hs : a.step e = some a') :
    Named a'.users id ↔ a.KeepsNickname id e := by
  constructor
  · intro hnamed'
    unfold KeepsNickname
    split
    · next i =>
      rintro ⟨k, id', fields⟩ hi rfl
      obtain ⟨d, hd, hisNamed⟩ := hnamed'
      rw [users_setData hi hs, Collection.get_set_self] at hd
      cases hd
      have hfalse := hisNamed.existNickname.symm.trans (h.setDatas (List.mem_of_getElem? hi))
      simp at hfalse
    · cases hs
      exact hnamed'
    · trivial
  · intro hkeeps
    rcases step_sends hs with hidle | ⟨i, k, call, id', email, -, -, -, husers, -, -⟩ |
      ⟨i, k, id', fields, rfl, hi, husers, -, -⟩ |
      ⟨i, k, email, savedId, nickname, -, -, -, -, husers, -, -⟩ |
      ⟨i, id', fields, rfl, hi, husers, -, -⟩ | ⟨rfl, -, -⟩
    · rw [hidle.users]
      exact hnamed
    · rw [husers]
      exact hnamed
    · have hne : id ≠ id' := Ne.symm (hkeeps (k, id', fields) hi)
      obtain ⟨d, hd, hisNamed⟩ := hnamed
      rw [husers]
      exact ⟨d, (Collection.get_set_of_ne _ _ hne).trans hd, hisNamed⟩
    · rw [husers]
      exact hnamed
    · obtain ⟨savedId, nickname, rfl⟩ := h.updates (List.mem_of_getElem? hi)
      rw [husers]
      exact hnamed.modify id' savedId nickname
    · exact hkeeps

/-- What an update makes of a run. -/
theorem named_of_updateData {i : Nat} {fields : Fields} (h₀ : a₀.NotRunning)
    (h : system.Runs a₀ es a) (hi : a.pending.updates[i]? = some (id, fields))
    (hfound : (a.users.get id).isSome) (hs : a.step (.updateData i true) = some b) :
    b.Shaped ∧ Named b.users id := by
  have hshaped : a.Shaped := h.invariant (fun hI _ hs => hI.step hs) h₀.shaped
  obtain ⟨savedId, nickname, rfl⟩ := hshaped.updates (List.mem_of_getElem? hi)
  refine ⟨hshaped.step hs, ?_⟩
  rw [users_updateData hi hs]
  exact named_modify hfound savedId nickname

/-- **A nickname stays.**  Once an update has given a nickname to a user, the user has one in
every state that follows, across launches, exactly if no sign-up writes the document anew and
the other devices leave a nickname there. -/
theorem steps_named_iff {i : Nat} {fields : Fields} (h₀ : a₀.NotRunning)
    (h : system.Runs a₀ es a) (hi : a.pending.updates[i]? = some (id, fields))
    (hfound : (a.users.get id).isSome) (hs : a.step (.updateData i true) = some b)
    (hrun : system.Runs b fs c) :
    (∀ gs u, gs <+: fs → system.Runs b gs u → Named u.users id) ↔
      system.Steps (KeepsNickname id) b fs c := by
  have hstart := named_of_updateData h₀ h hi hfound hs
  rw [hrun.forall_prefix_iff, and_iff_right hstart.2]
  refine hrun.iff_steps (I := fun a => a.Shaped ∧ Named a.users id)
    (fun hI _ hnext hs => ⟨hI.1.step hs, hnext _ hs⟩) (fun hI _ hs => ?_) hstart
  exact (EventSystem.forall_next_iff hs).trans (named_step_iff hI.1 hI.2 hs)

/-- The answer of the look-up of a user with a nickname. -/
theorem stack_getDocument {j : Nat} (hnamed : Named a.users id)
    (hj : a.pending.lookUps[j]? = some id) (hs : a.step (.getDocument j true) = some a') :
    a'.stack = if a.stack.head? = some .login then .navigation :: a.stack else a.stack := by
  obtain ⟨id', hj', rfl⟩ := Option.map_eq_some_iff.mp hs
  cases hj.symm.trans hj'
  obtain ⟨d, hd, hisNamed⟩ := hnamed
  show (LoginViewController.getDocumentDone _ (a.users.get id)).stack = _
  rw [hd, LoginViewController.getDocumentDone, if_pos hisNamed.existNickname,
    LoginViewController.changeView, App.present]
  split <;> rfl

/-- **No second nickname.**  As long as a nickname stays, a launch with the account of its
user leads from the login screen to the main screen, and never to the question for a
nickname. -/
theorem steps_opens {i j : Nat} {fields : Fields} {gs : List Event} {u v : App}
    (h₀ : a₀.NotRunning) (h : system.Runs a₀ es a)
    (hi : a.pending.updates[i]? = some (id, fields)) (hfound : (a.users.get id).isSome)
    (hs : a.step (.updateData i true) = some b) (hrun : system.Steps (KeepsNickname id) b fs c)
    (hfs : gs ++ [.getDocument j true] <+: fs) (hu : system.Runs b gs u)
    (hj : u.pending.lookUps[j]? = some id) (hv : u.step (.getDocument j true) = some v) :
    v.stack = if u.stack.head? = some .login then .navigation :: u.stack else u.stack := by
  have hnamed : u.Shaped ∧ Named u.users id :=
    hrun.forall_prefix (I := fun a => a.Shaped ∧ Named a.users id)
      (fun hI hkeeps hs => ⟨hI.1.step hs, (named_step_iff hI.1 hI.2 hs).mpr hkeeps⟩)
      (named_of_updateData h₀ h hi hfound hs) ((List.prefix_append gs _).trans hfs) hu
  exact stack_getDocument hnamed.2 hj hv

/-- The process is launched again; the account of `savedId` is looked up. -/
def relaunched : List Event := [.launch, .authenticate 0 none, .complete 0]

/-- The update is carried out, and the look-up of the next launch is answered. -/
theorem exists_relaunched : ∃ a fields b u v, system.Runs {} nicknamed a ∧
    a.pending.updates[0]? = some ("a@b.c", fields) ∧ (a.users.get "a@b.c").isSome ∧
    a.step (.updateData 0 true) = some b ∧ system.Runs b relaunched u ∧
    u.pending.lookUps[0]? = some "a@b.c" ∧ u.step (.getDocument 0 true) = some v := by
  obtain ⟨a, ha, htest⟩ := EventSystem.exists_runs_of_exec system {} nicknamed
    (fun a => (a.pending.updates[0]?.any (·.1 = "a@b.c") && (a.users.get "a@b.c").isSome) &&
      (a.step (.updateData 0 true)).any fun b => (system.exec (fun _ _ => True) b relaunched).any
        fun u => decide (u.pending.lookUps[0]? = some "a@b.c") &&
          (u.step (.getDocument 0 true)).isSome) (by decide)
  obtain ⟨hwrite, hnext⟩ := Bool.and_eq_true_iff.mp htest
  obtain ⟨hi, hfound⟩ := Bool.and_eq_true_iff.mp hwrite
  obtain ⟨⟨id, fields⟩, hi, hid⟩ := (Option.any_eq_true _ _).mp hi
  obtain rfl : id = "a@b.c" := of_decide_eq_true hid
  obtain ⟨b, hb, hnext⟩ := (Option.any_eq_true _ _).mp hnext
  obtain ⟨u, hu, hnext⟩ := EventSystem.exists_runs_of_exec system b relaunched _ hnext
  obtain ⟨hj, hv⟩ := Bool.and_eq_true_iff.mp hnext
  obtain ⟨v, hv⟩ := Option.isSome_iff_exists.mp hv
  exact ⟨a, fields, b, u, v, ha, hi, hfound, hb, hu, of_decide_eq_true hj, hv⟩

/-- A launch and its look-up replace no document. -/
theorem keeps_relaunched {u v : App} (hu : system.Runs b relaunched u)
    (hv : u.step (.getDocument 0 true) = some v) :
    system.Steps (KeepsNickname "a@b.c") b (relaunched ++ [.getDocument 0 true]) v :=
  (hu.of_forall (by simp [relaunched, KeepsNickname])).snoc trivial hv

theorem relaunched_named : ∃ a b v, system.Runs {} nicknamed a ∧
    a.step (.updateData 0 true) = some b ∧
    system.Runs b (relaunched ++ [.getDocument 0 true]) v ∧
    ∀ gs u, gs <+: relaunched ++ [.getDocument 0 true] → system.Runs b gs u →
      Named u.users "a@b.c" := by
  obtain ⟨a, fields, b, u, v, ha, hi, hfound, hb, hu, -, hv⟩ := exists_relaunched
  have hkeeps := keeps_relaunched hu hv
  exact ⟨a, b, v, ha, hb, hkeeps.runs,
    (steps_named_iff ⟨rfl, rfl⟩ ha hi hfound hb hkeeps.runs).mpr hkeeps⟩

theorem relaunched_opens : ∃ a b u v, system.Runs {} nicknamed a ∧
    a.step (.updateData 0 true) = some b ∧ system.Runs b relaunched u ∧
    u.step (.getDocument 0 true) = some v ∧
    v.stack = if u.stack.head? = some .login then .navigation :: u.stack else u.stack := by
  obtain ⟨a, fields, b, u, v, ha, hi, hfound, hb, hu, hj, hv⟩ := exists_relaunched
  exact ⟨a, b, u, v, ha, hb, hu, hv, steps_opens ⟨rfl, rfl⟩ ha hi hfound hb
    (keeps_relaunched hu hv) (List.prefix_refl _) hu hj hv⟩

end App

end Groute
