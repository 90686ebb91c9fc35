import ClassOrder.Proofs.Session.Telling

/-!
# The opening of a conversation

A conversation that comes to its end has told the server one thing after the other: the handshake
and, while that waits, replies; that the session is ready, the settings, and every document of the
workspace with the text that it has at that time; and then nothing but replies.

## Main definitions

* `OpenedDocument`, `OpenedDocument.message` — a document as the server is told of it.
* `Opening`, `Opening.messages` — the opening and the messages that it consists of, field by field.
* `Opening.Shows` — the workspace and the documents are those of the session.

## Main results

* `openConversation_opening` — **a conversation that comes to its end is an opening.**
-/

namespace ClassOrder

variable {τ : Type}

/-- A document as the server is told of it when it is opened. -/
structure OpenedDocument where
  path : Path
  uri : String
  text : String

/-- The message that a document is opened, in its first version and with its text. -/
def OpenedDocument.message (d : OpenedDocument) : Message :=
  .notification "textDocument/didOpen" (.object [("textDocument", .object [
    ("uri", .string d.uri), ("languageId", .string (languageId d.path)), ("version", .int 1),
    ("text", .string d.text)])])

theorem OpenedDocument.message_eq (d : OpenedDocument) :
    d.message = .notification Method.documentOpened (openedParams d.uri d.path d.text) := rfl

/-- The server is told the document's identifier and the text that it has. -/
structure OpenedDocument.Faithful (d : OpenedDocument) (s : Session τ) : Prop where
  uri : d.path.uri? = some d.uri
  text : s.text? d.path = some d.text

/-- The opening of a conversation. -/
structure Opening where
  /-- The number of the handshake. -/
  id : MessageId
  /-- The number of the client's process. -/
  processId : Int
  /-- The identifier of the workspace. -/
  workspace : String
  /-- The replies made while the handshake waits. -/
  replies : List (MessageId × Json)
  config : OpenedDocument
  stylesheet : Option OpenedDocument
  /-- The virtual document. -/
  document : OpenedDocument

namespace Opening

/-- The documents, in the order in which they are opened. -/
def documents (o : Opening) : List OpenedDocument :=
  o.config :: (o.stylesheet.toList ++ [o.document])

/-- What the handshake says: who the client is, where the workspace is, and what the client does. -/
def greeting (o : Opening) : Json :=
  .object [
    ("processId", .int o.processId),
    ("clientInfo", .object [("name", .string "tailwind_sorter"), ("version", .string "0.1.0")]),
    ("rootUri", .string o.workspace),
    ("workspaceFolders", .array [
      .object [("uri", .string o.workspace), ("name", .string "tailwind_sorter")]]),
    ("capabilities", .object [
      ("textDocument", .object [
        ("synchronization", .object [("didOpen", .bool true), ("didChange", .bool true)])]),
      ("workspace", .object [("configuration", .bool true)])])]

/-- The messages that an opening consists of. -/
def messages (o : Opening) : List Message :=
  requested "initialize" o.greeting o.id o.replies ++
    [.notification "initialized" (.object []),
      .notification "workspace/didChangeConfiguration" (.object [
        ("settings", .object [("tailwindCSS", .object [
          ("experimental", .object [("classRegex", .array [])]), ("validate", .bool true)])])])] ++
    o.documents.map OpenedDocument.message

theorem greeting_eq (o : Opening) :
    o.greeting = handshakeParams o.processId (.string o.workspace) := rfl

theorem messages_eq (o : Opening) :
    o.messages = requested Method.handshake o.greeting o.id o.replies ++
      [.notification Method.ready (.object []),
        .notification Method.settingsChanged workspaceSettings] ++
      o.documents.map OpenedDocument.message := rfl

/-- The workspace is the session's, and the documents are those in it, with the texts that they
have. -/
structure Shows (o : Opening) (s : Session τ) : Prop where
  workspace : s.staging.bind Path.uri? = some o.workspace
  config : s.activeConfig = some o.config.path
  stylesheet : s.activeStylesheet = o.stylesheet.map (·.path)
  document : s.document? = some o.document.path
  faithful : ∀ d ∈ o.documents, d.Faithful s

end Opening

variable {s t : Session τ}

theorem Session.text?_congr (h : t.premises = s.premises) : t.text? = s.text? := by
  have hhost : t.world.host = s.world.host := congrArg Premises.host h
  funext p
  rw [text?, text?, hhost]

theorem OpenedDocument.Faithful.congr {d : OpenedDocument} (hd : d.Faithful s)
    (h : t.premises = s.premises) : d.Faithful t :=
  ⟨hd.uri, Session.text?_congr h ▸ hd.text⟩

theorem Opening.Shows.congr {o : Opening} (ho : o.Shows s) (h : t.premises = s.premises) :
    o.Shows t where
  workspace := by
    rw [show t.staging = s.staging from congrArg Session.Premises.staging h]
    exact ho.workspace
  config := (congrArg Session.Premises.activeConfig h).trans ho.config
  stylesheet := (congrArg Session.Premises.activeStylesheet h).trans ho.stylesheet
  document := by
    rw [Session.document?, show t.staging = s.staging from congrArg Session.Premises.staging h]
    exact ho.document
  faithful d hd := (ho.faithful d hd).congr h

namespace Session

/-! ### The steps of an opening -/

theorem present_ok {α : Type} {x : Option α} {a : α} (hrun : (present x).apply s = (.ok a, t)) :
    x = some a ∧ s = t := by
  cases x with
  | none => cases hrun
  | some b =>
    cases hrun
    exact ⟨rfl, rfl⟩

theorem uriOf_ok {p : Path} {uri : String} (hrun : (uriOf p).apply s = (.ok uri, t)) :
    p.uri? = some uri ∧ s = t := by
  unfold uriOf at hrun
  split at hrun
  · next heq =>
    cases hrun
    exact ⟨heq, rfl⟩
  · cases hrun

theorem noteVersion_ok {answer : Json} (hrun : (noteVersion answer).apply s = (.ok (), t)) :
    Tells [] s t := by
  rw [noteVersion, Action.apply_ofFun] at hrun
  split at hrun
  · cases hrun
  · cases hrun
    exact .of_attached rfl rfl rfl rfl

variable [Timeline τ]

theorem openDocument_ok {p : Path} (hrun : (openDocument p).apply s = (.ok (), t)) :
    ∃ d : OpenedDocument, d.path = p ∧ d.Faithful s ∧ Tells [d.message] s t := by
  obtain ⟨uri, s₁, hidentify, hread⟩ := Action.apply_bind_eq_ok.mp hrun
  obtain ⟨huri, rfl⟩ := uriOf_ok hidentify
  obtain ⟨text, s₂, hload, hnotify⟩ := Action.apply_bind_eq_ok.mp hread
  obtain ⟨htext, rfl⟩ := readText_ok hload
  refine ⟨⟨p, uri, text⟩, rfl, ⟨huri, htext⟩, ?_⟩
  rw [OpenedDocument.message_eq]
  exact (notify_tells _ _ _).of_ok rfl hnotify

/-- The documents that are opened are those of the workspace. -/
theorem openDocuments_ok (hrun : openDocuments.apply s = (.ok (), t)) :
    ∃ (config : OpenedDocument) (stylesheet : Option OpenedDocument) (document : OpenedDocument),
      s.activeConfig = some config.path ∧ s.activeStylesheet = stylesheet.map (·.path) ∧
        s.document? = some document.path ∧
        (∀ d ∈ config :: (stylesheet.toList ++ [document]), d.Faithful s) ∧
        Tells ((config :: (stylesheet.toList ++ [document])).map OpenedDocument.message) s t := by
  obtain ⟨_, _, hget, hconfig⟩ := Action.apply_bind_eq_ok.mp hrun
  cases hget
  obtain ⟨p, _, hpresent, hopen⟩ := Action.apply_bind_eq_ok.mp hconfig
  obtain ⟨hp, rfl⟩ := present_ok hpresent
  obtain ⟨⟨⟩, s₁, hopened, hrest⟩ := Action.apply_bind_eq_ok.mp hopen
  obtain ⟨config, rfl, hfaithful, htells⟩ := openDocument_ok hopened
  -- the virtual document comes last, after the stylesheet if there is one
  have hlast {u : Session τ}
      (hend : (do openDocument (← present s.document?) : Action (Session τ) τ Unit).apply u =
        (.ok (), t)) :
      ∃ document : OpenedDocument, s.document? = some document.path ∧ document.Faithful u ∧
        Tells [document.message] u t := by
    obtain ⟨p, _, hpresent, hopen⟩ := Action.apply_bind_eq_ok.mp hend
    obtain ⟨hp, rfl⟩ := present_ok hpresent
    obtain ⟨document, rfl, hfaithful, htells⟩ := openDocument_ok hopen
    exact ⟨document, hp, hfaithful, htells⟩
  cases hsheet : s.activeStylesheet with
  | none =>
    rw [hsheet] at hrest
    obtain ⟨document, hdocument, hfaithful', htells'⟩ := hlast hrest
    refine ⟨config, none, document, hp, rfl, hdocument, ?_, htells.trans htells'⟩
    simp only [Option.toList_none, List.nil_append, List.forall_mem_cons, List.not_mem_nil,
      false_implies, implies_true, and_true]
    exact ⟨hfaithful, hfaithful'.congr htells.premises.symm⟩
  | some sheet =>
    rw [hsheet] at hrest
    obtain ⟨⟨⟩, s₂, hopened₂, hend⟩ := Action.apply_bind_eq_ok.mp hrest
    obtain ⟨stylesheet, rfl, hfaithful₂, htells₂⟩ := openDocument_ok hopened₂
    obtain ⟨document, hdocument, hfaithful₃, htells₃⟩ := hlast hend
    have hbefore := htells.trans htells₂
    refine ⟨config, some stylesheet, document, hp, rfl, hdocument, ?_, hbefore.trans htells₃⟩
    simp only [Option.toList_some, List.singleton_append, List.forall_mem_cons, List.not_mem_nil,
      false_implies, implies_true, and_true]
    exact ⟨hfaithful, hfaithful₂.congr htells.premises.symm,
      hfaithful₃.congr hbefore.premises.symm⟩

/-- **A conversation that comes to its end is an opening**, after which nothing but replies has been
told. -/
theorem openConversation_opening (hrun : openConversation.apply s = (.ok (), t)) :
    ∃ (o : Opening) (replies : List (MessageId × Json)), o.Shows t ∧
      t.received? = s.received?.map (· ++ (o.messages ++ replies.map replyMessage)) ∧
      t.former = s.former ∧ t.documentVersion = 1 := by
  obtain ⟨_, _, hget, hplace⟩ := Action.apply_bind_eq_ok.mp hrun
  cases hget
  obtain ⟨directory, _, hpresent, hidentify⟩ := Action.apply_bind_eq_ok.mp hplace
  obtain ⟨hstaging, rfl⟩ := present_ok hpresent
  obtain ⟨workspace, _, hidentified, hask⟩ := Action.apply_bind_eq_ok.mp hidentify
  obtain ⟨huri, rfl⟩ := uriOf_ok hidentified
  obtain ⟨answer, s₁, hanswer, hnote⟩ := Action.apply_bind_eq_ok.mp hask
  obtain ⟨⟨⟩, s₂, hversion, hready⟩ := Action.apply_bind_eq_ok.mp hnote
  obtain ⟨⟨⟩, s₃, hnotify, hsettings⟩ := Action.apply_bind_eq_ok.mp hready
  obtain ⟨⟨⟩, s₄, hchanged, hdocuments⟩ := Action.apply_bind_eq_ok.mp hsettings
  obtain ⟨⟨⟩, s₅, hopened, hmodify⟩ := Action.apply_bind_eq_ok.mp hdocuments
  obtain ⟨⟨⟩, s₆, hset, hdrain⟩ := Action.apply_bind_eq_ok.mp hmodify
  obtain ⟨handled, s₇, hdrained, hlog⟩ := Action.apply_bind_eq_ok.mp hdrain
  cases hset
  cases hlog
  obtain ⟨id, replies, hasked⟩ := (request_tells _ _ _).of_ok rfl hanswer
  obtain ⟨config, stylesheet, document, hconfig, hsheet, hdocument, hfaithful, htells⟩ :=
    openDocuments_ok hopened
  obtain ⟨more, hmore⟩ := (drain_tells _ _).of_ok rfl hdrained
  let o : Opening := ⟨id, s.world.processId, workspace, replies, config, stylesheet, document⟩
  -- up to the documents the session has only talked, and then it sets the version
  have hbefore : Tells (requested Method.handshake o.greeting id replies ++
      [.notification Method.ready (.object []),
        .notification Method.settingsChanged workspaceSettings]) s s₄ := by
    have htold := (notify_tells _ _ _).of_ok rfl hnotify
    have htold' := (notify_tells _ _ _).of_ok rfl hchanged
    rw [Opening.greeting_eq]
    simpa using ((hasked.trans (noteVersion_ok hversion)).trans htold).trans htold'
  have hopening : Tells o.messages s s₅ := o.messages_eq ▸ hbefore.trans htells
  have hworkspace : s₄.staging.bind Path.uri? = some workspace := by
    rw [show s₄.staging = s.staging from congrArg Premises.staging hbefore.premises, hstaging]
    exact huri
  have hshows : o.Shows s₄ := ⟨hworkspace, hconfig, hsheet, hdocument, hfaithful⟩
  refine ⟨o, more, hshows.congr (hmore.premises.trans htells.premises), ?_,
    hmore.former.trans hopening.former, hmore.version⟩
  have htold : s₇.received? = s₅.received?.map (· ++ more.map replyMessage) := hmore.told
  have hnoted : (s₇.note ⟨.debug, "Handshake complete, answered " ++ toString handled ++
      " server messages"⟩).received? = s₇.received? := rfl
  rw [hnoted, htold, hopening.told, Option.map_map]
  simp only [Function.comp_def, List.append_assoc]

end Session

end ClassOrder
