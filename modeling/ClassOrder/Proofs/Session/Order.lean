import ClassOrder.Proofs.Session.Closed
import ClassOrder.Proofs.Session.Opening

/-!
# The order of a conversation

What a server is told from its launch to its end keeps to an order.  First comes the opening.  Then
come blocks: a reply, a request for the project, or a new text of the virtual document and, right
after it, the request to sort the classes in it, if that is made.  The versions of the texts grow.
Last comes the farewell, as much of it as reaches the server, and nothing after it.

## Main definitions

* `Block` — what the session tells its server at a time, once the conversation is open.
* `Opening.block`, `Opening.farewell` — the messages of a block and the last ones, field by field.
* `Opening.Leads`, `Opening.Ordered` — messages in order, before the farewell and with it.
* `Session.Live`, `Session.Over` — a conversation that goes on, and one that does not.

## Main results

* `order_inConversation`, `askProject_inConversation`, `stop_inConversation` — what the session does
  keeps the order.
* `conversation_in_order` — **every conversation keeps to the order.**
-/

namespace ClassOrder

open ClassOrder.Action (Keeps Leaves Triple)

variable {τ α : Type}

/-- What the session tells its server at a time, once the conversation is open. -/
inductive Block where
  /-- A reply. -/
  | reply (r : MessageId × Json)
  /-- A request for the project. -/
  | project (id : MessageId)
  /-- A new text of the virtual document, and the request to sort the classes in it, if that is
  made. -/
  | change (version : Nat) (classes : String) (sorting : Option MessageId)

namespace Block

def version? : Block → Option Nat
  | change version _ _ => some version
  | reply _ | project _ => none

/-- The versions of the texts of the virtual document, in order. -/
def versions (blocks : List Block) : List Nat := blocks.filterMap version?

@[simp] theorem versions_append (blocks more : List Block) :
    versions (blocks ++ more) = versions blocks ++ versions more := List.filterMap_append

@[simp] theorem versions_change (version : Nat) (classes : String) (sorting : Option MessageId) :
    versions [change version classes sorting] = [version] := rfl

@[simp] theorem versions_map_reply (replies : List (MessageId × Json)) :
    versions (replies.map reply) = [] := by
  induction replies with
  | nil => rfl
  | cons r replies ih => exact ih

end Block

namespace Opening

variable {o : Opening} {n m : Nat} {ms : List Message} {classes : String}

/-- The message that the virtual document has a new text, in which the classes stand. -/
def changed (o : Opening) (version : Nat) (classes : String) : Message :=
  .notification "textDocument/didChange" (.object [
    ("textDocument", .object [("uri", .string o.document.uri), ("version", .int version)]),
    ("contentChanges", .array [.object [("text", .string ("<div class=\"" ++ classes ++
      "\"><!-- virtual document for processing tailwind classes --></div>"))]])])

/-- The request to put the classes in the virtual document in order. -/
def sorting (o : Opening) (classes : String) (id : MessageId) : Message :=
  .request id "@/tailwindCSS/sortSelection" (.object [
    ("uri", .string o.document.uri), ("classLists", .array [.string classes])])

/-- The request for the project of the configuration that was opened. -/
def asking (o : Opening) (id : MessageId) : Message :=
  .request id "@/tailwindCSS/getProject" (.object [("uri", .string o.config.uri)])

/-- The messages of a block, in a conversation with a given opening. -/
def block (o : Opening) : Block → List Message
  | .reply r => [replyMessage r]
  | .project id => [o.asking id]
  | .change version classes sorting =>
    o.changed version classes :: sorting.toList.map (o.sorting classes)

/-- The last words of a conversation. -/
def farewell (o : Opening) : List Message :=
  [.notification "textDocument/didClose" (.object [
      ("textDocument", .object [("uri", .string o.document.uri)])]),
    .notification "exit" (.object [])]

theorem changed_eq (o : Opening) (version : Nat) (classes : String) :
    o.changed version classes = .notification Method.documentChanged
      (changedParams (.string o.document.uri) version (virtualDocument classes)) := by
  simp only [changed, virtualDocument, documentComment, String.append_assoc]
  rfl

theorem sorting_eq (o : Opening) (classes : String) (id : MessageId) :
    o.sorting classes id =
      .request id Method.sortSelection (sortParams (.string o.document.uri) classes) := rfl

theorem asking_eq (o : Opening) (id : MessageId) :
    o.asking id =
      .request id Method.getProject (.object [("uri", .string o.config.uri)]) := rfl

theorem farewell_eq (o : Opening) :
    o.farewell =
      [.notification Method.documentClosed (Session.closedParams (.string o.document.uri)),
        .notification Method.exit (.object [])] := rfl

/-- The messages are the opening and then blocks, with versions that grow up to `n`. -/
def Leads (o : Opening) (n : Nat) (ms : List Message) : Prop :=
  ∃ blocks, ms = o.messages ++ blocks.flatMap o.block ∧
    (1 :: Block.versions blocks).Pairwise (· < ·) ∧ ∀ v ∈ 1 :: Block.versions blocks, v ≤ n

/-- The same, and the last of all is a new text of the virtual document, with version `n`. -/
def Changed (o : Opening) (classes : String) (n : Nat) (ms : List Message) : Prop :=
  ∃ m before, m < n ∧ o.Leads m before ∧ ms = before ++ o.block (.change n classes none)

/-- The messages are the opening, blocks with versions that grow from one, and the beginning of the
farewell. -/
def Ordered (o : Opening) (ms : List Message) : Prop :=
  ∃ blocks last, ms = o.messages ++ blocks.flatMap o.block ++ last ∧
    (1 :: Block.versions blocks).Pairwise (· < ·) ∧ last <+: o.farewell

@[simp] theorem flatMap_block_reply (replies : List (MessageId × Json)) :
    (replies.map Block.reply).flatMap o.block = replies.map replyMessage := by
  induction replies with
  | nil => rfl
  | cons r replies ih => simpa [block] using ih

namespace Leads

theorem mono (h : o.Leads m ms) (hmn : m ≤ n) : o.Leads n ms := by
  obtain ⟨blocks, hms, hversions, hle⟩ := h
  exact ⟨blocks, hms, hversions, fun v hv => (hle v hv).trans hmn⟩

/-- Blocks without a new text may follow. -/
theorem append (h : o.Leads n ms) (more : List Block) (hmore : Block.versions more = []) :
    o.Leads n (ms ++ more.flatMap o.block) := by
  obtain ⟨blocks, rfl, hversions, hle⟩ := h
  refine ⟨blocks ++ more, by simp, ?_⟩
  rw [Block.versions_append, hmore, List.append_nil]
  exact ⟨hversions, hle⟩

/-- A new text may follow, with a greater version. -/
theorem change (h : o.Leads m ms) (hmn : m < n) (classes : String) (sorting : Option MessageId) :
    o.Leads n (ms ++ o.block (.change n classes sorting)) := by
  obtain ⟨blocks, rfl, hversions, hle⟩ := h
  refine ⟨blocks ++ [.change n classes sorting], by simp, ?_⟩
  rw [Block.versions_append, Block.versions_change, ← List.cons_append]
  refine ⟨List.pairwise_append.mpr ⟨hversions, List.pairwise_singleton _ _, fun v hv w hw => ?_⟩,
    fun v hv => ?_⟩
  · obtain rfl := List.mem_singleton.mp hw
    exact (hle v hv).trans_lt hmn
  · rcases List.mem_append.mp hv with hv | hv
    · exact (hle v hv).trans hmn.le
    · exact (List.mem_singleton.mp hv).le

theorem requested_project (h : o.Leads n ms) (id : MessageId) (replies : List (MessageId × Json)) :
    o.Leads n (ms ++
      requested Method.getProject (.object [("uri", .string o.config.uri)]) id replies) := by
  have hblocks := h.append (.project id :: replies.map Block.reply)
    (Block.versions_map_reply replies)
  simpa [block, requested, asking_eq] using hblocks

theorem ordered (h : o.Leads n ms) {last : List Message} (hlast : last <+: o.farewell) :
    o.Ordered (ms ++ last) := by
  obtain ⟨blocks, rfl, hversions, -⟩ := h
  exact ⟨blocks, last, rfl, hversions, hlast⟩

end Leads

namespace Changed

theorem leads (h : o.Changed classes n ms) : o.Leads n ms := by
  obtain ⟨m, before, hmn, hbefore, rfl⟩ := h
  exact hbefore.change hmn classes none

/-- The request to sort the classes of the new text may follow right after it. -/
theorem requested_sorting (h : o.Changed classes n ms) (id : MessageId)
    (replies : List (MessageId × Json)) :
    o.Leads n (ms ++ requested Method.sortSelection (sortParams (.string o.document.uri) classes)
      id replies) := by
  obtain ⟨m, before, hmn, hbefore, rfl⟩ := h
  have hblocks := (hbefore.change hmn classes (some id)).append
    (replies.map Block.reply) (Block.versions_map_reply replies)
  simpa [block, requested, sorting_eq] using hblocks

end Changed

end Opening

namespace Session

/-- The conversation with the server in the place `k` goes on, and `P` holds of the version of the
virtual document and of what the server has been told. -/
structure Live (k : Nat) (o : Opening) (P : Nat → List Message → Prop) (s : Session τ) : Prop where
  place : s.former.length = k
  config : s.activeConfig.bind Path.uri? = some o.config.uri
  document : s.documentUri = .string o.document.uri
  told : ∃ ms, s.received? = some ms ∧ P s.documentVersion ms

/-- The server in the place `k` has been told a conversation in order, and is told nothing more. -/
def Over (k : Nat) (o : Opening) (s : Session τ) : Prop := ∃ ms, o.Ordered ms ∧ s.Closed k ms

/-- The conversation with the server in the place `k` is in order, whether it goes on or not. -/
def InConversation (k : Nat) (o : Opening) (s : Session τ) : Prop := s.Live k o o.Leads ∨ s.Over k o

/-- The part of a session that tells how its conversation stands. -/
def standing (s : Session τ) : Holdings τ × Nat × Option Path × Option Path :=
  (s.holdings, s.documentVersion, s.staging, s.activeConfig)

variable {s t u : Session τ} {k : Nat} {o : Opening} {P Q : Nat → List Message → Prop}
  {classes : String}

namespace Live

theorem mono (h : s.Live k o P) (hPQ : ∀ n ms, P n ms → Q n ms) : s.Live k o Q :=
  ⟨h.place, h.config, h.document, h.told.imp fun _ hms => ⟨hms.1, hPQ _ _ hms.2⟩⟩

/-- What the server is told next. -/
theorem tells (h : s.Live k o P) {more : List Message} (htells : Tells more s t)
    (hPQ : ∀ ms, P s.documentVersion ms → Q s.documentVersion (ms ++ more)) : t.Live k o Q where
  place := by rw [htells.former, h.place]
  config := by
    rw [show t.activeConfig = s.activeConfig from congrArg Premises.activeConfig htells.premises]
    exact h.config
  document := by
    have hstaging : t.staging = s.staging := congrArg Premises.staging htells.premises
    rw [documentUri, document?, hstaging]
    exact h.document
  told := by
    obtain ⟨ms, hreceived, hP⟩ := h.told
    exact ⟨ms ++ more, htells.received? hreceived, htells.version ▸ hPQ _ hP⟩

theorem congr (h : s.Live k o P) (hstanding : t.standing = s.standing) : t.Live k o P := by
  obtain ⟨hholdings, hversion, hstaging, hconfig⟩ : t.holdings = s.holdings ∧
      t.documentVersion = s.documentVersion ∧ t.staging = s.staging ∧
      t.activeConfig = s.activeConfig := by simpa [standing] using hstanding
  have hattached : t.attached = s.attached := congrArg Holdings.attached hholdings
  have hformer : t.former = s.former := congrArg Holdings.former hholdings
  obtain ⟨hplace, huri, hdocument, htold⟩ := h
  refine ⟨hformer ▸ hplace, hconfig ▸ huri, ?_, ?_⟩
  · rwa [documentUri, document?, hstaging]
  · rwa [received?, hattached, hversion]

/-- What the server does by itself. -/
theorem onServer (h : s.Live k o P) {change : τ → Server τ → Server τ}
    (hchange : ∀ now v, (change now v).transcript = v.transcript) :
    (s.onServer change).Live k o P := by
  obtain ⟨hplace, huri, hdocument, ms, hreceived, hP⟩ := h
  refine ⟨hplace, huri, hdocument, ms, ?_, hP⟩
  rw [← hreceived]
  simp [received?, Session.onServer, Function.comp_def, Server.received, hchange]

theorem attached (h : s.Live k o P) :
    ∃ a, s.attached = some a ∧ P s.documentVersion a.server.received := by
  obtain ⟨ms, hreceived, hP⟩ := h.told
  obtain ⟨a, ha, rfl⟩ := Option.map_eq_some_iff.mp hreceived
  exact ⟨a, ha, hP⟩

end Live

theorem Live.inConversation (h : s.Live k o o.Leads) : s.InConversation k o := .inl h

theorem Over.inConversation (h : s.Over k o) : s.InConversation k o := .inr h

/-- What leaves the standing of a conversation alone keeps it in order. -/
theorem Live.keeps_of_leaves {a : Action (Session τ) τ α} (ha : a.Leaves standing) :
    a.Keeps (Live k o P) := ha.keeps fun _ _ hstanding h => h.congr hstanding

theorem Live.ordered (h : s.Live k o o.Leads) : s.Live k o fun _ => o.Ordered :=
  h.mono fun _ ms hms => List.append_nil ms ▸ hms.ordered (List.nil_prefix)

theorem log_standing (text : String) : (log text : Action (Session τ) τ Unit).Leaves standing :=
  Leaves.modify fun _ => rfl

theorem kept?_standing [Timeline τ] (classes : String) :
    (kept? classes : Action (Session τ) τ (Option String)).Leaves standing := by
  refine Leaves.of_apply fun s => ?_
  rw [kept?, Action.apply_ofFun]
  dsimp only
  split <;> rfl

theorem Live.inConversation_of_leaves {a : Action (Session τ) τ α} (ha : a.Leaves standing) :
    Triple (Live k o o.Leads) a (fun _ => InConversation k o) fun _ => InConversation k o :=
  (Live.keeps_of_leaves ha).post (fun _ _ h => h.inConversation) fun _ _ h => h.inConversation

/-- What keeps every server settled keeps a conversation in order if it does so while that goes
on. -/
theorem keeps_inConversation {a : Action (Session τ) τ α}
    (hlive : Triple (Live k o o.Leads) a (fun _ => InConversation k o) fun _ => InConversation k o)
    (hclosed : ∀ ms, a.Keeps (Closed k ms)) : a.Keeps (InConversation k o) := by
  rintro s (hs | ⟨ms, hms, hs⟩)
  · exact hlive s hs
  · -- once the conversation is over, the server is told nothing more
    have hafter := hclosed ms s hs
    split at hafter <;> exact .inr ⟨ms, hms, hafter⟩

theorem over_keeps {a : Action (Session τ) τ α} (hclosed : ∀ ms, a.Keeps (Closed k ms)) :
    a.Keeps (Over k o) :=
  Keeps.of_apply fun _ ⟨ms, hms, hs⟩ => ⟨ms, hms, (hclosed ms).apply hs⟩

variable [Timeline τ]

/-! ### Taking the server down -/

theorem teardown_over (graceful : Bool) :
    Triple (Live k o fun _ => o.Ordered) (teardown graceful : Action (Session τ) τ Unit)
      (fun _ => Over k o) (fun _ => Over k o) := by
  intro s hs
  obtain ⟨a, ha, hordered⟩ := hs.attached
  have hafter := teardown_closed graceful s ⟨hs.place, a, ha, rfl⟩
  split at hafter <;> exact ⟨_, hordered, hafter⟩

/-- A teardown ends a conversation. -/
theorem teardown_inConversation (graceful : Bool) :
    Triple (InConversation k o) (teardown graceful : Action (Session τ) τ Unit)
      (fun _ => Over k o) (fun _ => Over k o) := by
  rintro s (hs | hs)
  · exact teardown_over graceful s hs.ordered
  · exact over_keeps (fun ms => (lasting_closed k ms).teardown graceful) s hs

theorem orAbandon_inConversation {gives : FaultKind → Bool} {a : Action (Session τ) τ α}
    {A : Session τ → Prop} {R : α → Session τ → Prop}
    (ha : Triple A a R fun _ => Live k o o.Leads) :
    Triple A (orAbandon gives a) R fun _ => InConversation k o := by
  refine Triple.tryCatch ha fun fault => Triple.ite (fun _ => ?_) fun _ => ?_
  · exact Triple.bind (((teardown_inConversation false).pre fun _ h => h.inConversation).post
      (fun _ _ h => h) fun _ _ h => h.inConversation) fun _ =>
        Triple.throw fun _ h => h.inConversation
  · exact Triple.throw fun _ h => h.inConversation

/-! ### Talking to the server -/

theorem notify_live {method : String} {params : Json}
    (hsent : ∀ n ms, P n ms → Q n (ms ++ [.notification method params])) :
    Triple (Live k o P) (notify method params : Action (Session τ) τ Unit)
      (fun _ => Live k o Q) (fun _ => Live k o P) := by
  intro s hs
  refine (notify_tells method params s).post (fun _ t ht => ?_) (fun _ t ht => ?_) s rfl
  · exact hs.tells ht (hsent _)
  · exact hs.tells ht fun ms hP => (List.append_nil ms).symm ▸ hP

/-- A call tells the server itself and replies, unless it cannot be sent. -/
theorem call_live {method : String} {params : Json} (hunsent : ∀ n ms, P n ms → o.Leads n ms)
    (hsent : ∀ n ms id replies, P n ms → o.Leads n (ms ++ requested method params id replies)) :
    Triple (Live k o P) (call method params : Action (Session τ) τ Json)
      (fun _ => Live k o o.Leads) (fun _ => InConversation k o) := by
  refine orAbandon_inConversation fun s hs => ?_
  refine (request_tells method params s).post (fun _ t ht => ?_) (fun _ t ht => ?_) s rfl
  · obtain ⟨id, replies, htells⟩ := ht
    exact hs.tells htells fun ms => hsent _ ms id replies
  · rcases ht with htells | ⟨id, replies, htells⟩
    · exact hs.tells htells fun ms hP => (List.append_nil ms).symm ▸ hunsent _ ms hP
    · exact hs.tells htells fun ms => hsent _ ms id replies

/-- A new text has a version that no text before it had, whether it reaches the server or not. -/
theorem changeDocument_live (classes : String) :
    Triple (Live k o o.Leads) (changeDocument classes : Action (Session τ) τ Unit)
      (fun _ => Live k o (o.Changed classes)) (fun _ => InConversation k o) := by
  refine Triple.bind (S := fun _ => Live k o fun n ms => ∃ m < n, o.Leads m ms)
    (Triple.modify fun s hs => ?_) fun _ => Triple.get_bind fun s hs =>
      orAbandon_inConversation fun t ht => ?_
  · -- the version grows before anything is sent
    obtain ⟨ms, hreceived, hleads⟩ := hs.told
    exact ⟨hs.place, hs.config, hs.document, ms, hreceived, _, Nat.lt_succ_self _, hleads⟩
  · subst ht
    refine (notify_tells _ _ t).post (fun _ u hu => ?_) (fun _ u hu => ?_) t rfl
    · refine hs.tells hu fun ms hms => ?_
      obtain ⟨m, hm, hleads⟩ := hms
      refine ⟨m, ms, hm, hleads, ?_⟩
      rw [hs.document, Opening.block, Opening.changed_eq]
      rfl
    · refine hs.tells hu fun ms hms => ?_
      obtain ⟨m, hm, hleads⟩ := hms
      exact (List.append_nil ms).symm ▸ hleads.mono hm.le

/-- Putting classes in order keeps a conversation in order. -/
theorem order_inConversation (classes : String) :
    (order classes : Action (Session τ) τ String).Keeps (InConversation k o) := by
  refine keeps_inConversation ?_ fun ms => (lasting_closed k ms).order classes
  refine Triple.bind (changeDocument_live classes) fun _ => Triple.get_bind fun s hs => ?_
  have hcall : Triple (· = s) (call Method.sortSelection (sortParams s.documentUri classes))
      (fun _ => Live k o o.Leads) (fun _ => InConversation k o) := by
    rw [hs.document]
    exact (call_live (P := o.Changed classes) (fun _ _ h => h.leads)
      fun _ _ id replies h => h.requested_sorting id replies).pre fun t ht => ht ▸ hs
  refine Triple.bind hcall fun result => ?_
  refine Live.inConversation_of_leaves (Leaves.bind (Leaves.ofExcept _) fun sorted => ?_)
  cases sorted with
  | none => exact Leaves.bind (log_standing _) fun _ => Leaves.pure _
  | some sorted => exact Leaves.bind (Leaves.modify fun _ => rfl) fun _ => Leaves.pure _

/-- Asking for the project keeps a conversation in order. -/
theorem askProject_inConversation :
    (askProject : Action (Session τ) τ Json).Keeps (InConversation k o) := by
  refine keeps_inConversation (Triple.get_bind fun s hs => ?_) fun ms =>
    (lasting_closed k ms).askProject
  obtain ⟨p, hp, huri⟩ := Option.bind_eq_some_iff.mp hs.config
  simp only [hp, present, pure_bind, uriOf, huri]
  refine Triple.bind ((call_live (P := o.Leads) (fun _ _ h => h)
    fun _ _ id replies h => h.requested_project id replies).pre fun t ht => ht ▸ hs)
    fun result => ?_
  refine Live.inConversation_of_leaves ?_
  cases heldError? result with
  | some error => exact Leaves.throw _
  | none =>
    exact Leaves.ite (Leaves.bind (Leaves.modify fun _ => rfl) fun _ => Leaves.pure _)
      (Leaves.pure _)

/-! ### Stopping and starting -/

/-- As much of the farewell as reaches the server is told in order. -/
theorem farewell_ordered :
    Triple (Live k o o.Leads) (farewell : Action (Session τ) τ Unit)
      (fun _ => Live k o fun _ => o.Ordered) (fun _ => Live k o fun _ => o.Ordered) := by
  refine Triple.get_bind fun s hs => ?_
  rw [hs.document]
  have hclosed : Triple (· = s)
      (notify Method.documentClosed (closedParams (.string o.document.uri)))
      (fun _ => Live k o fun n ms => ∃ before, o.Leads n before ∧ ms = before ++ [.notification
        Method.documentClosed (closedParams (.string o.document.uri))])
      (fun _ => Live k o fun _ => o.Ordered) :=
    ((notify_live fun n ms hms => ⟨ms, hms, rfl⟩).pre fun t ht => ht ▸ hs).post (fun _ _ h => h)
      fun _ _ h => h.ordered
  refine Triple.bind hclosed fun _ => (notify_live fun n ms hms => ?_).post (fun _ _ h => h)
    fun _ t ht => ht.mono fun n ms hms => ?_
  · -- the whole farewell
    obtain ⟨before, hleads, rfl⟩ := hms
    rw [List.append_assoc]
    refine hleads.ordered ?_
    rw [Opening.farewell_eq]
    exact List.prefix_refl _
  · -- the document was closed, but the server was not asked to end
    obtain ⟨before, hleads, rfl⟩ := hms
    refine hleads.ordered ?_
    rw [Opening.farewell_eq]
    exact ⟨[.notification Method.exit (.object [])], rfl⟩

theorem stop_inConversation :
    (stop : Action (Session τ) τ Unit).Keeps (InConversation k o) := by
  refine keeps_inConversation ?_ fun ms => (lasting_closed k ms).stop
  have hgone : Triple (Live k o o.Leads) (farewellOrGone : Action (Session τ) τ Unit)
      (fun _ => Live k o fun _ => o.Ordered) (fun _ => Live k o fun _ => o.Ordered) :=
    Triple.tryCatch farewell_ordered fun _ => Triple.ite
      (fun _ => Live.keeps_of_leaves (log_standing _)) fun _ => Triple.throw fun _ h => h
  refine Triple.get_bind fun s hs => Triple.ite (fun _ => ?_) fun _ => ?_
  · have hlog : Triple (· = s) (log "Stopping language server")
        (fun _ => Live k o o.Leads) (fun _ => InConversation k o) :=
      ((Live.keeps_of_leaves (log_standing _)).pre fun t ht => ht ▸ hs).post (fun _ _ h => h)
        fun _ _ h => h.inConversation
    have hover := Triple.andThen hgone (fun _ => teardown_over true) fun _ => teardown_over true
    exact Triple.bind hlog fun _ => hover.post (fun _ _ h => h.inConversation)
      fun _ _ h => h.inConversation
  · exact Triple.pure fun t ht => ht ▸ hs.inConversation

/-- A start leaves a conversation that goes on alone, or ends it before it launches a server. -/
theorem ensureStarted_inConversation :
    (ensureStarted : Action (Session τ) τ Unit).Keeps (InConversation k o) := by
  refine keeps_inConversation (fun s hs => ?_) fun ms => (lasting_closed k ms).ensureStarted
  cases hrunning : s.isRunning with
  | true =>
    rw [apply_ensureStarted, if_pos hrunning]
    exact hs.inConversation
  | false =>
    obtain ⟨a, ha, hleads⟩ := hs.ordered.attached
    -- what holds until the old server is taken down: nobody talks to it
    let A (t : Session τ) : Prop := t.isRunning = false ∧ t.former.length = k ∧
      ∃ b, t.attached = some b ∧ b.server.received = a.server.received
    have hquiet (t u : Session τ) (h : u.holdings = t.holdings) (ht : A t) : A u := by
      refine ⟨(isRunning_congr h).trans ht.1, ?_, ?_⟩
      · rw [show u.former = t.former from congrArg Holdings.former h]
        exact ht.2.1
      · rw [show u.attached = t.attached from congrArg Holdings.attached h]
        exact ht.2.2
    have hstart := (lasting_closed k a.server.received).ensureStarted_of (A := A) hquiet
      (fun t ht hnone => ?_) ((teardown_closed false).pre fun t ht => ht.2)
    · refine hstart.post (fun _ t ht => ?_) (fun _ t ht => ?_) s ⟨hrunning, hs.place, a, ha, rfl⟩
      · rcases ht with ⟨⟨hstopped, -⟩, hrunning'⟩ | hclosed
        · rw [hstopped] at hrunning'
          cases hrunning'
        · exact .inr ⟨_, hleads, hclosed⟩
      · exact .inr ⟨_, hleads, ht⟩
    · obtain ⟨-, -, b, hb, -⟩ := ht
      rw [hnone] at hb
      cases hb

theorem cleanup_inConversation :
    (cleanup : Action (Session τ) τ Unit).Keeps (InConversation k o) := by
  have hover {a : Action (Session τ) τ Unit} (ha : Quiet a) : a.Keeps (Over k o) :=
    over_keeps fun ms => (lasting_closed k ms).keeps ha
  have hrest : Triple (InConversation k o)
      (do abandon; removeWorkspace; forgetWorkspace : Action (Session τ) τ Unit)
      (fun _ => Over k o) (fun _ => Over k o) :=
    Triple.bind (teardown_inConversation false) fun _ =>
      Triple.bind (hover quiet_removeWorkspace) fun _ => hover quiet_forgetWorkspace
  exact Triple.bind stop_inConversation fun _ =>
    hrest.post (fun _ _ h => h.inConversation) fun _ _ h => h.inConversation

theorem sortClasses_inConversation (classes : String) :
    (sortClasses classes : Action (Session τ) τ String).Keeps (InConversation k o) := by
  have hkept : (kept? classes : Action (Session τ) τ (Option String)).Keeps (InConversation k o) :=
    keeps_inConversation (Live.inConversation_of_leaves (kept?_standing classes)) fun ms =>
      (lasting_closed k ms).keeps (quiet_kept? classes)
  refine Keeps.bind hkept fun kept => ?_
  cases kept with
  | some result => exact Keeps.pure _
  | none => exact Keeps.bind ensureStarted_inConversation fun _ => order_inConversation classes

end Session

open Session (InConversation)

variable [Timeline τ] {s t u : Session τ} {k : Nat} {o : Opening}

/-- Every operation of a client keeps a conversation in order. -/
theorem Call.perform_inConversation {c : Call} (hc : c ≠ .prepare) :
    (c.perform : Action (Session τ) τ Json).Keeps (InConversation k o) := by
  have hgive {β : Type} {a : Action (Session τ) τ β} (ha : a.Keeps (InConversation k o))
      (f : β → Json) : (do return f (← a) : Action (Session τ) τ Json).Keeps (InConversation k o) :=
    Keeps.bind ha fun _ => Keeps.pure _
  cases c with
  | start => exact hgive Session.ensureStarted_inConversation fun _ => .null
  | stop => exact hgive Session.stop_inConversation fun _ => .null
  | abandon =>
    exact hgive ((Session.teardown_inConversation false).post (fun _ _ h => h.inConversation)
      fun _ _ h => h.inConversation) fun _ => .null
  | cleanup => exact hgive Session.cleanup_inConversation fun _ => .null
  | prepare => exact absurd rfl hc
  | sort classes => exact hgive (Session.sortClasses_inConversation classes) .string
  | sortOnce classes =>
    exact hgive (Keeps.andThen (Session.sortClasses_inConversation classes)
      Session.stop_inConversation) .string
  | project => exact Keeps.bind Session.ensureStarted_inConversation fun _ =>
      Session.askProject_inConversation

/-- **A turn keeps a conversation in order**, whatever the server does in it. -/
theorem Turn.take_inConversation {turn : Turn τ} (hturn : turn ≠ .call .prepare)
    (hs : s.InConversation k o) : (turn.take s).2.InConversation k o := by
  have hserver (change : τ → Server τ → Server τ)
      (hchange : ∀ now v, (change now v).transcript = v.transcript)
      (hclosed : ∀ ms, s.Closed k ms → (s.onServer change).Closed k ms) :
      (s.onServer change).InConversation k o := by
    rcases hs with hs | ⟨ms, hms, hs⟩
    · exact .inl (hs.onServer hchange)
    · exact .inr ⟨ms, hms, hclosed ms hs⟩
  have hquiet {t : Session τ} (h : t.standing = s.standing) : t.InConversation k o := by
    rcases hs with hs | ⟨ms, hms, hs⟩
    · exact .inl (hs.congr h)
    · exact .inr ⟨ms, hms, (Session.lasting_closed k ms).quiet s t (congrArg Prod.fst h) hs⟩
  cases turn with
  | call c => exact (c.perform_inConversation fun hc => hturn (hc ▸ rfl)).apply hs
  | pass time => exact hquiet rfl
  | edit change => exact hquiet rfl
  | act deeds =>
    exact hserver _ (fun now v => Server.transcript_performAll now deeds v)
      fun ms => (Session.lasting_closed k ms).act s deeds
  | breakInput fault =>
    exact hserver (fun _ v => v.breakInput fault none) (fun _ _ => rfl)
      fun ms => (Session.lasting_closed k ms).breakInput s fault

theorem Session.run_inConversation {turns : List (Turn τ)}
    (hturns : ∀ turn ∈ turns, turn ≠ .call .prepare) (hs : s.InConversation k o) :
    (s.run turns).InConversation k o := by
  induction turns generalizing s with
  | nil => exact hs
  | cons turn turns ih =>
    exact ih (fun next hnext => hturns next (List.mem_cons_of_mem _ hnext))
      (Turn.take_inConversation (hturns turn List.mem_cons_self) hs)

/-- A start that succeeds without a server to talk to has opened a conversation. -/
theorem Session.ensureStarted_opens (hu : u.FormerEnded) (hrunning : u.isRunning = false)
    (hrun : ensureStarted.apply u = (.ok (), t)) :
    ∃ o : Opening, o.Shows t ∧ t.InConversation t.former.length o := by
  rcases ensureStarted_ok hrun with ⟨hrunning', -⟩ | ⟨-, s, hstart, htalk⟩
  · rw [hrunning] at hrunning'
    cases hrunning'
  · obtain ⟨a, ha, hempty⟩ := (startup_triple.of_ok hu hstart).attached
    obtain ⟨o, replies, hshows, hreceived, -, hversion⟩ := openConversation_opening htalk
    have hconfig := (hshows.faithful o.config List.mem_cons_self).uri
    have hdocument := (hshows.faithful o.document (by simp [Opening.documents])).uri
    -- the replies made in the end are the first blocks
    have hleads : o.Leads 1 (o.messages ++ replies.map replyMessage) := by
      have hopened : o.Leads 1 o.messages := ⟨[], by simp, by simp [Block.versions]⟩
      simpa using hopened.append _ (Block.versions_map_reply replies)
    refine ⟨o, hshows, .inl ⟨rfl, ?_, ?_, o.messages ++ replies.map replyMessage, ?_, ?_⟩⟩
    · rw [hshows.config]
      exact hconfig
    · rw [documentUri, hshows.document, Option.bind_some, hdocument]
    · rw [hreceived, received?, ha]
      simp [Server.received, hempty]
    · rwa [hversion]

/-- **Every conversation keeps to the order.**  Let a start that finds no server to talk to succeed
in a run, and let the turns that follow be any but one that makes the workspace ready by itself,
which is a part of a start and no operation of a client's.  Then the server, which keeps its place,
has been told just this: the opening, with the documents of the workspace as they were then;
replies, requests for the project that name the configuration opened, and new texts of the virtual
document, whose versions grow from one, each with or without the request to sort its classes right
after it; and of the farewell as much as has reached it. -/
theorem conversation_in_order (settings : Settings τ) (project : Project) (world : World τ)
    (earlier later : List (Turn τ)) (turn : Turn τ) (hlater : ∀ next ∈ later, next ≠ .call .prepare)
    (hstarts : turn.startsFrom ((Session.ofProject settings project world).run earlier) = some u)
    (hrunning : u.isRunning = false) (hrun : Session.ensureStarted.apply u = (.ok (), t)) :
    ∃ (v : Server τ) (o : Opening),
      ((Session.ofProject settings project world).run (earlier ++ turn :: later)).servers[
        t.former.length]? = some v ∧ o.Shows t ∧ o.Ordered v.received := by
  have hformer : ((Session.ofProject settings project world).run earlier).FormerEnded :=
    Session.formerEnded_ofProject settings project world earlier
  have hsu := Turn.later_startsFrom hstarts
  obtain ⟨o, hshows, hopened⟩ := Session.ensureStarted_opens (hsu.former hformer) hrunning hrun
  have hstart : (Session.ensureStarted.apply u).2.InConversation t.former.length o := by
    rw [hrun]
    exact hopened
  have hturn := Turn.take_of_start Session.order_inConversation Session.askProject_inConversation
    Session.stop_inConversation hstarts hstart
  have hend := Session.run_inConversation hlater hturn
  rw [Session.run_append, Session.run_cons]
  -- the server is still the one to talk to, or what it was told is settled
  rcases hend with hlive | ⟨ms, hms, hclosed⟩
  · obtain ⟨a, ha, hordered⟩ := hlive.ordered.attached
    refine ⟨a.server, o, ?_, hshows, hordered⟩
    simp [Session.servers, ha, ← hlive.place]
  · obtain ⟨v, hv, rfl⟩ := hclosed.getElem?
    exact ⟨v, o, hv, hshows, hms⟩

/-- A session with a project, whose server asks for its settings before it answers. -/
def askingSession : Session ℚ :=
  let asks : ScriptedDeed ℚ := .say (.object [("id", .int 1),
    ("method", .string Method.configuration), ("params", .object [])])
  sampleSession ⟨some (.ofString "/w"), some (.ofString "/w/c.js"), some (.ofString "/w/s.css")⟩
    ⟨[(["w"], .directory), (["w", "c.js"], .file [97] 1 false),
      (["w", "s.css"], .file [98] 1 false)]⟩
    { batches :=
        [(Method.handshake, [[asks, .answer (.object [])]]),
          (Method.sortSelection, [[asks, .answer (.object [("classLists", .array [])])]]),
          (Method.getProject, [[.answer .null]])] }

/-- A server asked for two things and then stopped. -/
def askedAndStopped : List (Turn ℚ) := [.call (.sort "b a"), .call .project, .call .stop]

/-- What a message says of a document that is opened or has a new text: its identifier, its version
and its text. -/
def Message.documentTold? : Message → Option (String × Int × String)
  | .notification "textDocument/didOpen" (.object [("textDocument", .object [
      ("uri", .string uri), ("languageId", .string _), ("version", .int version),
      ("text", .string text)])]) => some (uri, version, text)
  | .notification "textDocument/didChange" (.object [
      ("textDocument", .object [("uri", .string uri), ("version", .int version)]),
      ("contentChanges", .array [.object [("text", .string text)]])]) => some (uri, version, text)
  | _ => none

theorem conversation_in_order_askedAndStopped :
    (∀ next ∈ askedAndStopped, next ≠ .call .prepare) ∧ askingSession.isRunning = false ∧
      (Session.ensureStarted.apply askingSession).1.isOk = true ∧
      ∃ (v : Server ℚ) (o : Opening),
        (askingSession.run (.call .start :: askedAndStopped)).servers[0]? = some v ∧
          o.Ordered v.received ∧
          v.received.map Message.method? =
            [some "initialize", none, some "initialized", some "workspace/didChangeConfiguration",
              some "textDocument/didOpen", some "textDocument/didOpen", some "textDocument/didOpen",
              some "textDocument/didChange", some "@/tailwindCSS/sortSelection", none,
              some "@/tailwindCSS/getProject", some "textDocument/didClose", some "exit"] ∧
          v.received.filterMap Message.documentTold? =
            [("file:///tailwind_sorter_w/c.js", 1, "a"),
              ("file:///tailwind_sorter_w/s.css", 1, "b"),
              ("file:///tailwind_sorter_w/virtual.html", 1,
                "<div><!-- virtual document for processing tailwind classes --></div>"),
              ("file:///tailwind_sorter_w/virtual.html", 2,
                "<div class=\"b a\">" ++
                  "<!-- virtual document for processing tailwind classes --></div>")] := by
  have hlater : ∀ next ∈ askedAndStopped, next ≠ .call .prepare := by
    simp [askedAndStopped]
  have hstarted : (Session.ensureStarted.apply askingSession).1.isOk = true ∧
      (Session.ensureStarted.apply askingSession).2.former.length = 0 := by decide +kernel
  obtain ⟨hok, hplace⟩ := hstarted
  have htold : (askingSession.run (.call .start :: askedAndStopped)).servers[0]?.map
      (fun v => (v.received.map Message.method?, v.received.filterMap Message.documentTold?)) = some
        ([some "initialize", none, some "initialized", some "workspace/didChangeConfiguration",
            some "textDocument/didOpen", some "textDocument/didOpen", some "textDocument/didOpen",
            some "textDocument/didChange", some "@/tailwindCSS/sortSelection", none,
            some "@/tailwindCSS/getProject", some "textDocument/didClose", some "exit"],
          [("file:///tailwind_sorter_w/c.js", 1, "a"),
            ("file:///tailwind_sorter_w/s.css", 1, "b"),
            ("file:///tailwind_sorter_w/virtual.html", 1,
              "<div><!-- virtual document for processing tailwind classes --></div>"),
            ("file:///tailwind_sorter_w/virtual.html", 2,
              "<div class=\"b a\">" ++
                "<!-- virtual document for processing tailwind classes --></div>")]) := by
    decide +kernel
  refine ⟨hlater, rfl, hok, ?_⟩
  have hrun := Action.apply_of_isOk hok
  generalize (Session.ensureStarted.apply askingSession).2 = t at hrun hplace
  unfold askingSession sampleSession at hrun htold ⊢
  obtain ⟨v, o, hv, -, hordered⟩ :=
    conversation_in_order _ _ _ [] askedAndStopped (.call .start) hlater rfl rfl hrun
  rw [hplace, List.nil_append] at hv
  rw [hv, Option.map_some, Option.some_inj, Prod.mk.injEq] at htold
  exact ⟨v, o, hv, hordered, htold⟩

end ClassOrder
