import Groute.Authoring.World

/-!
# An authoring run touches only its own trip

The reference returned by `addDocument` is discarded.  A run finds its document
again with two queries on the random string, and the identifier is then copied
from controller to controller.  `Session.Own` is the invariant that ties all
copies to the document the run created: each of them is that document or still
empty.

The database contributes two facts (`World.Owned`): no document has the field
`id` empty, so a look-up on the empty string that a failed title check leaves
behind finds nothing, and the field `id` of a run's document is unique to it.
-/

namespace Groute

namespace Session

variable {s : Session} {st : Store} {e : Event} {ok : Bool} {r : Response}

/-- The documents of all results name only `id`. -/
def LookUp.OnlyFinds (q : LookUp) (id : DocId) : Prop :=
  ∀ documents ∈ q.answers, ∀ document ∈ documents, document.1 = id

/-- Every identifier a run holds is empty or that of the document it created. -/
structure Own (s : Session) : Prop where
  created_ne : s.created ≠ ""
  createId_ne : s.title.createId ≠ ""
  search_createId : s.search.createId = "" ∨ s.search.createId = s.title.createId
  search_id : s.search.id = "" ∨ s.search.id = s.created
  searchLookUp : LookUp.OnlyFinds s.searchLookUp s.created
  createDocumentId :
    s.addRoute.createDocumentId = "" ∨ s.addRoute.createDocumentId = s.title.createId
  newDocumentId : s.addRoute.newDocumentId = "" ∨ s.addRoute.newDocumentId = s.created
  addRouteLookUp : LookUp.OnlyFinds s.addRouteLookUp s.created
  listeners : ∀ id ∈ s.listeners, id = s.created
  routeList : s.routeList.documentId = "" ∨ s.routeList.documentId = s.created
  detailTour : s.detailTour.documentId = "" ∨ s.detailTour.documentId = s.created
  deletion : ∀ d ∈ s.deletion, d.target = s.created

/-- A run that starts owns nothing but its document. -/
theorem own_enter {created : DocId} {randomElement : Nat → Fin letters.length}
    {currentUser : Option String} (h : created ≠ "") :
    (enter created randomElement currentUser).Own where
  created_ne := h
  createId_ne := randomString_ne_empty (by decide) randomElement
  search_createId := Or.inl rfl
  search_id := Or.inl rfl
  searchLookUp := by simp [LookUp.OnlyFinds, enter]
  createDocumentId := Or.inl rfl
  newDocumentId := Or.inl rfl
  addRouteLookUp := by simp [LookUp.OnlyFinds, enter]
  listeners := by simp [enter]
  routeList := Or.inl rfl
  detailTour := Or.inl rfl
  deletion := by simp [enter]

/-! ## What one reaction does -/

/-- A run never changes its document, its random identifier or its user. -/
theorem Reacts.fixed (h : Reacts s st e ok r) :
    r.next.created = s.created ∧ r.next.title.createId = s.title.createId ∧
      r.next.currentUser = s.currentUser := by
  cases h <;> exact ⟨rfl, rfl, rfl⟩

/-- Every call `document(_)` gets the empty string or the run's document. -/
theorem Reacts.documents (h : Reacts s st e ok r) (hs : s.Own) :
    ∀ x ∈ r.documents, x = "" ∨ x = s.created := by
  cases h with
  | openRouteList | saveCancel | addRouteAppears => simpa using hs.newDocumentId
  | confirmStop => simpa using hs.detailTour
  | searchAppears => simpa using hs.search_id
  | _ => simp

/-- A run that does not abort writes to its own document only, and its writes
keep the field `id`. -/
theorem Reacts.writes (h : Reacts s st e ok r) (hs : s.Own) (hd : "" ∉ r.documents) :
    ∀ w ∈ r.writes, w.target = s.created ∧ w.keepsId := by
  cases h with
  | openRouteList =>
      have hid := hs.newDocumentId.resolve_left fun h => hd (by simp [h])
      exact Write.forall_mem_ite ⟨hid, rfl⟩
  | confirmStop =>
      have hid := hs.detailTour.resolve_left fun h => hd (by simp [h])
      exact Write.forall_mem_ite ⟨hid, rfl⟩
  | searchAppears =>
      have hid := hs.search_id.resolve_left fun h => hd (by simp [h])
      exact Write.forall_mem_ite ⟨hid, rfl⟩
  | @cleanUp e _ d d' ws h hstep =>
      intro w hw
      obtain ⟨htarget, hkeeps⟩ := Deletion.step_writes hstep w hw
      exact ⟨htarget.trans (hs.deletion d h), hkeeps⟩
  | _ => simp

/-- Taking a result out of the queue keeps what is known of the others. -/
theorem LookUp.OnlyFinds.deliver {q q' : LookUp} {id : DocId} {i : Nat}
    {documents : List (DocId × Document)} (hq : OnlyFinds q id)
    (h : q.deliver i = some (documents, q')) :
    (∀ document ∈ documents, document.1 = id) ∧ OnlyFinds q' id := by
  obtain ⟨documents', hget, heq⟩ := Option.map_eq_some_iff.mp h
  obtain ⟨rfl, rfl⟩ := Prod.mk.inj heq
  refine ⟨hq _ (List.mem_of_getElem? hget), fun ds hds => ?_⟩
  exact hq ds (List.eraseIdx_subset hds)

/-- A handler that takes a result leaves its identifier empty or sets it to the
document that the look-up finds. -/
theorem LookUp.OnlyFinds.lastId_eq {q q' : LookUp} {created id : DocId} {i : Nat}
    {documents : List (DocId × Document)} (hq : OnlyFinds q created)
    (h : q.deliver i = some (documents, q')) (hid : id = "" ∨ id = created) :
    lastId documents id = "" ∨ lastId documents id = created :=
  lastId_induction (P := fun id => id = "" ∨ id = created) hid
    fun document hmem => Or.inr ((hq.deliver h).1 document hmem)

/-- A reaction that does not abort keeps the invariant, provided that look-ups
on the empty string find nothing and those on the random identifier only the
document of the run. -/
theorem Reacts.own (h : Reacts s st e ok r) (hs : s.Own) (hd : "" ∉ r.documents)
    (hfind : ∀ x, x = "" ∨ x = s.title.createId →
      ∀ document ∈ st.contentWithId x, document.1 = s.created) : r.next.Own := by
  cases h with
  | next =>
      refine { hs with search_createId := ?_, search_id := ?_, searchLookUp := ?_ }
      · simp only [TitleViewController.prepare]
        split
        · exact Or.inr rfl
        · exact Or.inl rfl
      · simp only [TitleViewController.prepare]
        split <;> exact Or.inl rfl
      · simp [LookUp.OnlyFinds]
  | pickCity =>
      exact { hs with
        createDocumentId := hs.search_createId
        newDocumentId := Or.inl rfl
        addRouteLookUp := by simp [LookUp.OnlyFinds]
        listeners := by simp }
  | openRouteList => exact { hs with routeList := hs.newDocumentId }
  | openTour => exact { hs with detailTour := hs.routeList }
  | saveCancel =>
      have hid := hs.newDocumentId.resolve_left fun h => hd (by simp [h])
      exact { hs with deletion := by simp [Deletion.saveCancel, hid] }
  | addRouteAppears =>
      have hid := hs.newDocumentId.resolve_left fun h => hd (by simp [h])
      refine { hs with listeners := fun id hmem => ?_ }
      rcases List.mem_append.mp hmem with hmem | hmem
      · exact hs.listeners id hmem
      · exact (List.mem_singleton.mp hmem).trans hid
  | searchRead =>
      refine { hs with searchLookUp := fun documents hmem => ?_ }
      rcases List.mem_append.mp hmem with hmem | hmem
      · exact hs.searchLookUp documents hmem
      · exact List.mem_singleton.mp hmem ▸ hfind _ hs.search_createId
  | @searchDone documents q _ hq =>
      rw [SearchViewController.getRealDocumentIdDone_eq]
      exact { hs with
        search_id := hs.searchLookUp.lastId_eq hq hs.search_id
        searchLookUp := (hs.searchLookUp.deliver hq).2 }
  | @addRouteRead ok =>
      refine { hs with addRouteLookUp := fun documents hmem => ?_ }
      rcases List.mem_append.mp hmem with hmem | hmem
      · exact hs.addRouteLookUp documents hmem
      · split at hmem
        · exact List.mem_singleton.mp hmem ▸ hfind _ hs.createDocumentId
        · cases hmem
  | @addRouteDone i documents q vc _ hq hvc =>
      rw [AddRouteViewController.updateRouteDocumentDone_eq hvc]
      exact { hs with
        newDocumentId := hs.addRouteLookUp.lastId_eq hq hs.newDocumentId
        addRouteLookUp := (hs.addRouteLookUp.deliver hq).2 }
  | @routeSnapshot k order id vc hk hvc =>
      obtain ⟨hnew, hcreate, -⟩ := AddRouteViewController.getRouteDataDone_fixed hvc
      exact { hs with
        createDocumentId := by rw [hcreate]; exact hs.createDocumentId
        newDocumentId := by rw [hnew]; exact hs.newDocumentId }
  | @tourDone snapshot ok hp =>
      refine { hs with detailTour := ?_ }
      dsimp only
      split <;> exact hs.detailTour
  | @cleanUp e _ d d' ws hdel hstep =>
      refine { hs with deletion := fun d₁ hd₁ => ?_ }
      obtain rfl := Option.some.inj hd₁
      exact (Deletion.step_target hstep).trans (hs.deletion d hdel)
  | _ => exact { hs with }

/-! ## When an identifier has been found -/

/-- The handler has run on a result that contains a document. -/
def LookUp.Found (q : LookUp) : Prop := ∃ documents ∈ q.delivered, documents ≠ []

/-- The handler has taken a result; whether a document was found by now depends
on whether that result contains one. -/
theorem LookUp.found_deliver {q q' : LookUp} {i : Nat} {documents : List (DocId × Document)}
    (h : q.deliver i = some (documents, q')) :
    Found q' ↔ Found q ∨ documents ≠ [] := by
  obtain ⟨documents', -, heq⟩ := Option.map_eq_some_iff.mp h
  obtain ⟨rfl, rfl⟩ := Prod.mk.inj heq
  simp [Found, or_and_right, exists_or]

/-- The two identifiers found by look-ups are present exactly when a look-up of
their screen has found a document, and the screens on top of the planner are
entered with an identifier only. -/
structure Resolved (s : Session) : Prop where
  search : s.search.id ≠ "" ↔ LookUp.Found s.searchLookUp
  addRoute : s.addRoute.newDocumentId ≠ "" ↔ LookUp.Found s.addRouteLookUp
  planner : s.phase = .on .addRoute true → s.addRoute.newDocumentId ≠ ""
  routeList : ∀ {appeared}, s.phase = .on .routeList appeared → s.routeList.documentId ≠ ""
  detailTour : ∀ {appeared}, s.phase = .on .detailTour appeared →
    s.detailTour.documentId ≠ "" ∧ s.routeList.documentId ≠ ""

/-- A run that starts has looked nothing up. -/
theorem resolved_enter {created : DocId} {randomElement : Nat → Fin letters.length}
    {currentUser : Option String} : (enter created randomElement currentUser).Resolved where
  search := by simp [LookUp.Found, enter]
  addRoute := by simp [LookUp.Found, enter]
  planner := by simp [enter]
  routeList := by simp [enter]
  detailTour := by simp [enter]

/-- The planner has appeared, or a screen on top of it. -/
def OnTop : Phase → Prop
  | .on .addRoute true | .on .routeList _ | .on .detailTour _ => True
  | _ => False

/-- Elsewhere only the two identifiers matter. -/
theorem Resolved.of_not_onTop (hsearch : s.search.id ≠ "" ↔ LookUp.Found s.searchLookUp)
    (haddRoute : s.addRoute.newDocumentId ≠ "" ↔ LookUp.Found s.addRouteLookUp)
    (h : ¬OnTop s.phase) : s.Resolved where
  search := hsearch
  addRoute := haddRoute
  planner hp := by rw [hp] at h; exact absurd trivial h
  routeList hp := by rw [hp] at h; exact absurd trivial h
  detailTour hp := by rw [hp] at h; exact absurd trivial h

/-- Aborting keeps both invariants. -/
theorem Own.abort (hs : s.Own) : s.abort.Own := { hs with }

theorem Resolved.abort (hs : s.Resolved) : s.abort.Resolved :=
  .of_not_onTop hs.search hs.addRoute id

/-- The identifier that a handler leaves, in terms of the results so far. -/
theorem resolved_lastId {q q' : LookUp} {i : Nat} {documents : List (DocId × Document)}
    {id created : DocId} (hcreated : created ≠ "") (hid : id ≠ "" ↔ LookUp.Found q)
    (hq : LookUp.OnlyFinds q created) (h : q.deliver i = some (documents, q')) :
    lastId documents id ≠ "" ↔ LookUp.Found q' := by
  rw [LookUp.found_deliver h, ← hid]
  by_cases hnil : documents = []
  · simp [hnil, lastId]
  · obtain ⟨document, hmem, heq⟩ := lastId_mem hnil id
    rw [heq, (hq.deliver h).1 document hmem]
    simp [hcreated, hnil]

/-- A reaction that does not abort keeps the invariant. -/
theorem Reacts.resolved (h : Reacts s st e ok r) (hs : s.Own) (hr : s.Resolved)
    (hd : "" ∉ r.documents) : r.next.Resolved := by
  cases h with
  | editTitle | editMemo => exact { hr with }
  | next hp =>
      refine .of_not_onTop ?_ hr.addRoute id
      simp only [TitleViewController.prepare, LookUp.Found]
      split <;> simp
  | pickCity hp =>
      refine .of_not_onTop hr.search ?_ id
      simp [SearchViewController.prepare, LookUp.Found]
  | openRouteList hp =>
      exact { hr with
        planner := by rintro ⟨⟩
        routeList := fun _ => hr.planner hp
        detailTour := by rintro _ ⟨⟩ }
  | openTour hp =>
      exact { hr with
        planner := by rintro ⟨⟩
        routeList := by rintro _ ⟨⟩
        detailTour := fun _ => ⟨hr.routeList hp, hr.routeList hp⟩ }
  | confirmStop hp => exact .of_not_onTop hr.search hr.addRoute id
  | leave hp => exact .of_not_onTop hr.search hr.addRoute id
  | @back screen below ok hp hb =>
      cases screen with
      | title => cases hb
      | search | addRoute | routeList =>
          cases hb
          exact .of_not_onTop hr.search hr.addRoute id
      | detailTour =>
          cases hb
          exact { hr with
            planner := by rintro ⟨⟩
            routeList := fun _ => (hr.detailTour hp).2
            detailTour := by rintro _ ⟨⟩ }
  | saveConfirm | saveCancel =>
      exact .of_not_onTop hr.search hr.addRoute id
  | searchAppears hp =>
      exact .of_not_onTop hr.search hr.addRoute id
  | addRouteAppears hp =>
      refine { hr with
        planner := fun _ h => hd (List.mem_singleton.mpr h.symm)
        routeList := by rintro _ ⟨⟩
        detailTour := by rintro _ ⟨⟩ }
  | @appears screen ok hp hsearch haddRoute =>
      cases screen with
      | title => exact .of_not_onTop hr.search hr.addRoute id
      | search => exact absurd rfl hsearch
      | addRoute => exact absurd rfl haddRoute
      | routeList =>
          exact { hr with
            planner := by rintro ⟨⟩
            routeList := fun _ => hr.routeList hp
            detailTour := by rintro _ ⟨⟩ }
      | detailTour =>
          exact { hr with
            planner := by rintro ⟨⟩
            routeList := by rintro _ ⟨⟩
            detailTour := fun _ => hr.detailTour hp }
  | searchRead | addRouteRead | routeFails | cleanUp => exact { hr with }
  | @tourDone snapshot ok hp =>
      refine { hr with detailTour := fun hphase => ?_ }
      dsimp only
      split <;> exact hr.detailTour hphase
  | searchFails | addRouteTraps | routeTraps => exact hr.abort
  | @searchDone documents q _ hq =>
      have hid := resolved_lastId hs.created_ne hr.search hs.searchLookUp hq
      rw [SearchViewController.getRealDocumentIdDone_eq]
      exact { hr with search := hid }
  | @addRouteDone i documents q vc _ hq hvc =>
      have hid := resolved_lastId hs.created_ne hr.addRoute hs.addRouteLookUp hq
      rw [AddRouteViewController.updateRouteDocumentDone_eq hvc]
      refine { hr with addRoute := hid, planner := fun hp => hid.mpr ?_ }
      exact (LookUp.found_deliver hq).mpr (Or.inl (hr.addRoute.mp (hr.planner hp)))
  | routeSnapshot hk hvc =>
      obtain ⟨hnew, -, -⟩ := AddRouteViewController.getRouteDataDone_fixed hvc
      exact { hr with
        addRoute := by rw [hnew]; exact hr.addRoute
        planner := by rw [hnew]; exact hr.planner }

/-- On `viewDidAppear` of the city screen or of the planner, a look-up of that
screen has found a document. -/
def Ready (s : Session) (e : Event) : Prop :=
  e = .didAppear →
    (s.phase = .on .search false → LookUp.Found s.searchLookUp) ∧
      (s.phase = .on .addRoute false → LookUp.Found s.addRouteLookUp)

theorem empty_notMem_singleton_iff {x : String} : "" ∉ [x] ↔ x ≠ "" := by
  rw [List.mem_singleton, ← ne_eq, ne_comm]

/-- The empty string reaches `document(_)` in no other situation. -/
theorem Reacts.ready_iff (h : Reacts s st e ok r) (hr : s.Resolved) :
    "" ∉ r.documents ↔ s.Ready e := by
  cases h with
  | openRouteList hp | saveCancel hp =>
      exact iff_of_true (empty_notMem_singleton_iff.mpr (hr.planner hp)) nofun
  | confirmStop hp =>
      exact iff_of_true (empty_notMem_singleton_iff.mpr (hr.detailTour hp).1) nofun
  | searchAppears hp =>
      rw [empty_notMem_singleton_iff, hr.search]
      simp [Ready, hp]
  | addRouteAppears hp =>
      rw [empty_notMem_singleton_iff, hr.addRoute]
      simp [Ready, hp]
  | appears hp hsearch haddRoute => simp [Ready, hp, hsearch, haddRoute]
  | _ => simp [Ready]

end Session

/-! ## Any number of runs -/

namespace World

variable {w w' w₀ : World} {e : Event} {es : List Event}

/-- The document that an event makes `createRouteDocument` add. -/
def Event.entered : Event → Option DocId
  | .enter created _ _ _ _ => some created
  | .run _ _ _ | .elsewhere _ => none

/-- A later state of a run has the same document. -/
theorem map_created_set {sessions : List Session} {s s' : Session} {i : Nat}
    (hi : sessions[i]? = some s) (h : s'.created = s.created) :
    (sessions.set i s').map Session.created = sessions.map Session.created := by
  have hcreated : (sessions.map Session.created)[i]? = some s.created := by
    rw [List.getElem?_map, hi]
    rfl
  obtain ⟨hlt, heq⟩ := List.getElem?_eq_some_iff.mp hcreated
  rw [List.map_set, h, ← heq, List.set_getElem_self]

/-- One step starts at most the run whose document it adds. -/
theorem created_step (h : w.step e = some w') :
    w'.sessions.map Session.created = w.sessions.map Session.created ++ e.entered.toList := by
  cases e with
  | enter created randomElement currentUser now ok =>
      obtain ⟨-, ⟨⟩⟩ := Option.ite_none_right_eq_some.mp h
      rw [List.map_append]
      rfl
  | run i e ok =>
      obtain ⟨s, r, hi, hr, hcases⟩ := step_run h
      rw [Event.entered, Option.toList_none, List.append_nil]
      rcases hcases with ⟨-, rfl⟩ | ⟨-, rfl⟩
      · exact map_created_set hi rfl
      · exact map_created_set hi (Session.reacts_of_react hr).fixed.1
  | elsewhere wr =>
      obtain ⟨-, ⟨⟩⟩ := Option.ite_none_right_eq_some.mp h
      exact (List.append_nil _).symm

/-- All runs satisfy their invariants, and the database separates them. -/
structure Owned (w : World) : Prop where
  idField_ne : ∀ {id d}, w.store.content.get id = some d → d.get "id" ≠ some (.string "")
  own : ∀ s ∈ w.sessions, s.Own
  resolved : ∀ s ∈ w.sessions, s.Resolved
  unique : ∀ s ∈ w.sessions, ∀ {id d}, w.store.content.get id = some d →
    d.get "id" = some (.string s.title.createId) → id = s.created
  nodup : (w.sessions.map Session.created).Nodup

/-- Without runs there is nothing to own. -/
theorem Initial.owned (h : w.Initial) : w.Owned where
  idField_ne := h.idField_ne
  own := by simp [h.sessions]
  resolved := by simp [h.sessions]
  unique := by simp [h.sessions]
  nodup := by simp [h.sessions]

/-- Look-ups of a run find only its document. -/
theorem Owned.find {s : Session} (h : w.Owned) (hs : s ∈ w.sessions) {x : String}
    (hx : x = "" ∨ x = s.title.createId) :
    ∀ document ∈ w.store.contentWithId x, document.1 = s.created := by
  rintro ⟨id, d⟩ hmem
  obtain ⟨hget, hid⟩ := Store.mem_contentWithId_iff.mp hmem
  rcases hx with rfl | rfl
  · exact absurd hid (h.idField_ne hget)
  · exact h.unique s hs hget hid

/-- Writes that keep the field `id` keep what the database contributes. -/
theorem Owned.applyAll {ws : List Write} (h : w.Owned) (hws : ∀ wr ∈ ws, wr.keepsId) :
    Owned { w with store := w.store.applyAll ws } where
  idField_ne hget := by
    obtain ⟨d, hd, heq⟩ := Store.exists_get_of_get_applyAll hws hget
    exact heq ▸ h.idField_ne hd
  own := h.own
  resolved := h.resolved
  unique s hs _ _ hget hid := by
    obtain ⟨d, hd, heq⟩ := Store.exists_get_of_get_applyAll hws hget
    exact h.unique s hs hd (heq ▸ hid)
  nodup := h.nodup

/-- Replacing a run by a later state of it. -/
theorem Owned.set {s s' : Session} {i : Nat} (h : w.Owned) (hi : w.sessions[i]? = some s)
    (hcreated : s'.created = s.created) (hcreateId : s'.title.createId = s.title.createId)
    (hown : s'.Own) (hresolved : s'.Resolved) :
    Owned { w with sessions := w.sessions.set i s' } where
  idField_ne := h.idField_ne
  own t ht := (List.mem_or_eq_of_mem_set ht).elim (h.own t) fun ht => ht ▸ hown
  resolved t ht := (List.mem_or_eq_of_mem_set ht).elim (h.resolved t) fun ht => ht ▸ hresolved
  unique t ht _ _ hget hid := by
    rcases List.mem_or_eq_of_mem_set ht with ht | rfl
    · exact h.unique t ht hget hid
    · rw [hcreated]
      exact h.unique s (List.mem_of_getElem? hi) hget (hcreateId ▸ hid)
  nodup := by rw [map_created_set hi hcreated]; exact h.nodup

/-- A new run adds its document under a fresh reference and a fresh identifier. -/
theorem Owned.enter {created : DocId} {randomElement : Nat → Fin letters.length}
    {currentUser : Option String} {now : Date} {ok : Bool} (h : w.Owned)
    (hw : w.step (.enter created randomElement currentUser now ok) = some w') : w'.Owned := by
  obtain ⟨hfresh, ⟨⟩⟩ := Option.ite_none_right_eq_some.mp hw
  obtain ⟨hne, ⟨hunused, -⟩, hempty, hother⟩ := hfresh
  have hget : ∀ {id d}, (if ok then w.store.apply (.addContent created
      (TitleViewController.createRouteDocument (TitleViewController.drawId randomElement)
        currentUser now)) else w.store).content.get id = some d →
      w.store.content.get id = some d ∨ id = created ∧
        d.get "id" = some (.string (TitleViewController.drawId randomElement)) := by
    intro id d hd
    split at hd
    · by_cases hid : id = created
      · subst hid
        cases (Collection.get_set_self _ _ _).symm.trans hd
        exact Or.inr ⟨rfl, rfl⟩
      · exact Or.inl ((Collection.get_set_of_ne _ _ hid).symm.trans hd)
    · exact Or.inl hd
  have hcreateId : TitleViewController.drawId randomElement ≠ "" :=
    randomString_ne_empty (by decide) randomElement
  exact {
    idField_ne := by
      intro id d hd
      rcases hget hd with hold | ⟨-, hid⟩
      · exact h.idField_ne hold
      · rw [hid]
        simpa using hcreateId
    own := fun s hs => (List.mem_append.mp hs).elim (h.own s) fun hs => by
      rw [List.mem_singleton.mp hs]
      exact Session.own_enter hne
    resolved := fun s hs => (List.mem_append.mp hs).elim (h.resolved s) fun hs => by
      rw [List.mem_singleton.mp hs]
      exact Session.resolved_enter
    unique := by
      intro s hs id d hd hid
      rcases List.mem_append.mp hs with hmem | hmem <;> rcases hget hd with hold | ⟨hid', hnew⟩
      · exact h.unique s hmem hold hid
      · rw [hnew, Option.some.injEq, Value.string.injEq] at hid
        exact absurd hid.symm (hother s hmem).2
      · rw [List.mem_singleton.mp hmem] at hid
        have hfound := Store.mem_contentWithId_iff.mpr ⟨hold, hid⟩
        rw [Session.enter, List.isEmpty_iff.mp hempty] at hfound
        cases hfound
      · rw [List.mem_singleton.mp hmem]
        exact hid'
    nodup := by
      rw [List.map_append, List.nodup_append_comm]
      refine List.nodup_cons.mpr ⟨fun hmem => ?_, h.nodup⟩
      obtain ⟨s, hs, heq⟩ := List.mem_map.mp hmem
      exact (hother s hs).1 heq }

/-- Every step keeps the invariant. -/
theorem Owned.step (h : w.Owned) (hw : w.step e = some w') : w'.Owned := by
  cases e with
  | enter created randomElement currentUser now ok => exact h.enter hw
  | run i e ok =>
      obtain ⟨s, r, hi, hr, hcases⟩ := step_run hw
      have hs := List.mem_of_getElem? hi
      have hreacts := Session.reacts_of_react hr
      obtain ⟨hcreated, hcreateId, -⟩ := hreacts.fixed
      rcases hcases with ⟨-, rfl⟩ | ⟨hd, rfl⟩
      · exact h.set hi rfl rfl (h.own s hs).abort (h.resolved s hs).abort
      · refine (h.set hi hcreated hcreateId ?_ ?_).applyAll
          fun wr hwr => (hreacts.writes (h.own s hs) hd wr hwr).2
        · exact hreacts.own (h.own s hs) hd fun x hx => h.find hs hx
        · exact hreacts.resolved (h.own s hs) (h.resolved s hs) hd
  | elsewhere wr =>
      obtain ⟨helse, ⟨⟩⟩ := Option.ite_none_right_eq_some.mp hw
      have happly : Owned { w with store := w.store.applyAll [wr] } := h.applyAll fun wr' hwr' => by
        rw [List.mem_singleton.mp hwr']
        exact Write.keepsId_of_isElsewhere helse
      exact happly

/-- Every run of the system keeps the invariant. -/
theorem Owned.runs (h₀ : w₀.Initial) (h : system.Runs w₀ es w) : w.Owned :=
  h.invariant (fun hI _ hstep => hI.step hstep) h₀.owned

/-- A reaction of a run leaves every other trip alone. -/
theorem Owned.sameAt_run {s : Session} {i : Nat} {e : Session.Event} {ok : Bool} {id : DocId}
    (h : w.Owned) (hw : w.step (.run i e ok) = some w') (hi : w.sessions[i]? = some s)
    (hid : id ≠ s.created) : Store.SameAt id w.store w'.store := by
  obtain ⟨s', r, hi', hr, ⟨-, rfl⟩ | ⟨hd, rfl⟩⟩ := step_run hw
  · exact .refl id _
  · cases hi.symm.trans hi'
    have hwrites := (Session.reacts_of_react hr).writes (h.own s (List.mem_of_getElem? hi)) hd
    exact Store.sameAt_applyAll fun wr hwr h => hid (h.trans (hwrites wr hwr).1)

/-! ## A run addresses only its own trip -/

/-- The `i`-th run is the one that the `i`-th title screen started. -/
theorem created_runs (h₀ : w₀.Initial) (h : system.Runs w₀ es w) :
    w.sessions.map Session.created = es.filterMap Event.entered := by
  have hrun : ∀ {u es v}, system.Runs u es v →
      v.sessions.map Session.created =
        u.sessions.map Session.created ++ es.filterMap Event.entered := by
    intro u es v h
    induction h with
    | nil u => simp
    | @cons u v _ e es _ hstep _ ih =>
        rw [ih, created_step hstep, List.append_assoc]
        cases he : e.entered <;> simp [he]
  simpa [h₀.sessions] using hrun h

/-- Every call and every write of a reaction is about the document of the run. -/
def AddressesOwn (s : Session) (r : Session.Response) : Prop :=
  (∀ x ∈ r.documents, x = s.created) ∧ ∀ wr ∈ r.writes, wr.target = s.created

/-- The screen that appears has not had the result of a look-up yet. -/
def LookUpPending (s : Session) : Prop :=
  s.phase = .on .search false ∧ s.searchLookUp.delivered = [] ∨
    s.phase = .on .addRoute false ∧ s.addRouteLookUp.delivered = []

/-- The screen that appears has not had a document from a look-up yet. -/
def NothingFound (s : Session) : Prop :=
  s.phase = .on .search false ∧ ¬Session.LookUp.Found s.searchLookUp ∨
    s.phase = .on .addRoute false ∧ ¬Session.LookUp.Found s.addRouteLookUp

/-- **An authoring run touches only its own trip.**  Whatever the runs did so
far, a reaction of the `i`-th run either addresses the document that the `i`-th
title screen added, or the run aborts because no look-up of the screen that
appears has returned a document.  Every other document of `Content` and its
subcollections stay as they are. -/
theorem step_run_own_trip {i : Nat} {e : Session.Event} {ok : Bool} (h₀ : w₀.Initial)
    (h : system.Runs w₀ es w) (hstep : w.step (.run i e ok) = some w') :
    ∃ s r, w.sessions[i]? = some s ∧ (es.filterMap Event.entered)[i]? = some s.created ∧
      s.react w.store e ok = some r ∧
      (AddressesOwn s r ∧ w' = ⟨w.store.applyAll r.writes, w.sessions.set i r.next⟩ ∨
        NothingFound s ∧ w' = ⟨w.store, w.sessions.set i s.abort⟩) ∧
      ∀ id ≠ s.created, Store.SameAt id w.store w'.store := by
  obtain ⟨s, r, hi, hr, hcases⟩ := step_run hstep
  have howned := Owned.runs h₀ h
  have hs := List.mem_of_getElem? hi
  have hreacts := Session.reacts_of_react hr
  refine ⟨s, r, hi, ?_, hr, ?_, fun id hid => howned.sameAt_run hstep hi hid⟩
  · rw [← created_runs h₀ h, List.getElem?_map, hi]
    rfl
  rcases hcases with ⟨hd, rfl⟩ | ⟨hd, rfl⟩
  · refine Or.inr ⟨?_, rfl⟩
    have hready := mt (hreacts.ready_iff (howned.resolved s hs)).mpr (not_not.mpr hd)
    simp only [Session.Ready, not_forall, not_and_or] at hready
    obtain ⟨-, ⟨hp, hfound⟩ | ⟨hp, hfound⟩⟩ := hready
    · exact Or.inl ⟨hp, hfound⟩
    · exact Or.inr ⟨hp, hfound⟩
  · have hwrites := hreacts.writes (howned.own s hs) hd
    refine Or.inl ⟨⟨fun x hx => ?_, fun wr hwr => (hwrites wr hwr).1⟩, rfl⟩
    exact (hreacts.documents (howned.own s hs) x hx).resolve_left fun h => hd (h ▸ hx)

/-- A title is typed, the look-up finds the trip, and the city screen is about
to appear. -/
def updateTitleRun : List Event :=
  [enterTrip, .enter "other" (fun _ => ⟨1, by decide⟩) (some "d@e.f") 1 true,
    .run 0 .didAppear true, .run 0 (.editTitle "Jeju") true, .run 0 .next true,
    .run 0 .searchRead true, .run 0 .searchDone true]

/-- Writing the title then leaves the trip of the other run alone. -/
theorem updateTitle_own_trip : ∃ w w', system.Runs blank updateTitleRun w ∧
    w.step (.run 0 .didAppear true) = some w' ∧
    Store.SameAt "other" w.store w'.store := by
  obtain ⟨w, hrun, hw⟩ := EventSystem.exists_runs_of_exec system blank
    updateTitleRun
    (fun w => (w.sessions[0]?.any fun s => s.created = "trip") &&
      (w.step (.run 0 .didAppear true)).isSome) (by decide)
  obtain ⟨hcreated, hstep⟩ := Bool.and_eq_true_iff.mp hw
  obtain ⟨w', hw'⟩ := Option.isSome_iff_exists.mp hstep
  obtain ⟨s, r, hs, -, -, -, hsame⟩ := step_run_own_trip initial_blank hrun hw'
  rw [hs] at hcreated
  have hne : "other" ≠ s.created := by
    rw [of_decide_eq_true hcreated]
    decide
  exact ⟨w, w', hrun, hw', hsame "other" hne⟩

/-- Both texts are left empty, the look-up on the empty string is answered, and
the city screen appears. -/
def emptyTitleRun : List Event :=
  [enterTrip, .run 0 .didAppear true, .run 0 .next true,
    .run 0 .searchRead true, .run 0 .searchDone true]

/-- The run after that aborts although its look-up has been answered. -/
theorem exists_abort_after_lookUp : ¬∀ {w₀ w : World} {es : List Event} {i : Nat}
    {s : Session} {e : Session.Event} {ok : Bool} {r : Session.Response}, w₀.Initial →
    system.Runs w₀ es w → w.sessions[i]? = some s → s.react w.store e ok = some r →
    AddressesOwn s r ∨ LookUpPending s := by
  intro hall
  obtain ⟨w, hrun, hw⟩ := EventSystem.exists_runs_of_exec system blank
    emptyTitleRun
    (fun w => w.sessions[0]?.any fun s => s.phase = .on .search false ∧
      s.search.id = "" ∧ s.created = "trip" ∧ s.searchLookUp.delivered.length = 1) (by decide)
  obtain ⟨s, hs, hp⟩ := (Option.any_eq_true _ _).mp hw
  obtain ⟨hphase, hid, hcreated, hlength⟩ := of_decide_eq_true hp
  have hreact : s.react w.store .didAppear true = s.didAppear true := rfl
  rw [Session.didAppear, hphase] at hreact
  rcases hall initial_blank hrun hs hreact with ⟨hown, -⟩ | ⟨-, hpending⟩ | ⟨hother, -⟩
  · have hne := hown s.search.id List.mem_cons_self
    rw [hid, hcreated] at hne
    exact absurd hne (by decide)
  · rw [hpending] at hlength
    cases hlength
  · rw [hphase] at hother
    cases hother

end World

end Groute
