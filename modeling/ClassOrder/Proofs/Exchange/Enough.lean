import ClassOrder.Channel.Line
import ClassOrder.Proofs.Exchange.Scenes
import ClassOrder.Proofs.Framing.Chunking
import ClassOrder.Proofs.Framing.Consumed
import ClassOrder.Session.Wire

/-!
# As many reads as there are messages

Waiting and draining are told how many messages they may read, and what they are told is always
enough: more than there are bytes left.  Every message that is read takes bytes off the stream,
nothing else brings any that were not counted before, and a server that has written all that it may
write is silent.  So the number decides nothing: however large it is chosen, an exchange does the
same, and each round is followed by the next one until one of them ends the matter.

## Main definitions

* `Surroundings.Dwindles`, `Link.Dwindles` — every message read leaves less to read.

## Main results

* `await_enough`, `drainFrom_enough` — **any number that is large enough is as good as any other.**
* `await_eq_round` — waiting goes on round by round, with no number of rounds to limit it.
* `Script.dwindles`, `Line.dwindles`, `Wire.dwindles`, `Scene.dwindles` — so it is over every
  connection.
-/

namespace ClassOrder

variable {σ τ : Type}

/-- Every message that is received makes the number of what is unread smaller, and nothing makes it
larger. -/
structure Surroundings.Dwindles (e : Surroundings σ τ) : Prop where
  send : ∀ m s, e.unread ((e.send m).apply s).2 ≤ e.unread s
  handle : ∀ m s, e.unread ((e.handle m).apply s).2 ≤ e.unread s
  look : ∀ s, e.unread (e.look s).2 ≤ e.unread s
  note : ∀ r s, e.unread (e.note r s) ≤ e.unread s
  receive : ∀ {time s m t}, (e.receive time).apply s = (.ok m, t) → e.unread t < e.unread s

/-- The same of a link, whatever replies are due. -/
structure Link.Dwindles (link : Link σ τ) : Prop where
  send : ∀ m s, link.unread ((link.send m).apply s).2 ≤ link.unread s
  note : ∀ r s, link.unread (link.note r s) ≤ link.unread s
  receive : ∀ {time s m t}, (link.receive time).apply s = (.ok m, t) →
    link.unread t < link.unread s

theorem Link.Dwindles.surroundings {link : Link σ τ} (h : link.Dwindles) (p : Preferences) :
    (link.surroundings p).Dwindles where
  send := h.send
  handle m s := by
    simp only [Link.surroundings, Action.apply_ofFun]
    split
    · exact h.note _ s
    · exact Nat.le_refl _
  look s := Nat.le_refl _
  note := h.note
  receive := h.receive

/-! ### Rounds -/

section

variable {e : Surroundings σ τ}

theorem Surroundings.Dwindles.answer (h : e.Dwindles) (m : Message) (s : σ) :
    e.unread ((e.answer m).apply s).2 ≤ e.unread s := by
  have hhandled := h.handle m s
  rw [Surroundings.answer, Action.apply_bind]
  rcases hrun : (e.handle m).apply s with ⟨fault | _ | reply, t⟩
  · rw [hrun] at hhandled
    exact hhandled
  · rw [hrun] at hhandled
    exact hhandled
  · rw [hrun] at hhandled
    exact (h.send reply t).trans hhandled

variable [Timeline τ]

/-- A round goes on with less to read, if it goes on. -/
theorem awaitRound_congr (h : e.Dwindles) {b : Bounds τ} {id : MessageId}
    {again again' : σ → Ending τ × σ} {s : σ}
    (hagain : ∀ t, e.unread t < e.unread s → again t = again' t) :
    e.awaitRound b id again s = e.awaitRound b id again' s := by
  -- to look at the clock reads nothing, and each message leaves less to read
  have hlook := h.look s
  unfold Surroundings.awaitRound
  generalize e.look s = looked at hlook ⊢
  obtain ⟨now, t⟩ := looked
  dsimp only at hlook ⊢
  split
  · rfl
  · split
    · rfl
    · next rid result error u heq =>
      split
      · rfl
      · have hu := h.receive heq
        exact hagain _ ((h.note _ u).trans_lt (hu.trans_le hlook))
    · next m u hm heq =>
      have hu := h.receive heq
      have hanswered := h.answer m u
      split
      · rfl
      · next v hv =>
        rw [hv] at hanswered
        exact hagain v (hanswered.trans_lt (hu.trans_le hlook))

theorem drainRound_congr (h : e.Dwindles) {start timeout : τ}
    {again again' : Nat → σ → Except (Fault τ) Nat × σ} {handled : Nat} {s : σ}
    (hagain : ∀ n t, e.unread t < e.unread s → again n t = again' n t) :
    e.drainRound start timeout again handled s = e.drainRound start timeout again' handled s := by
  have hlook := h.look s
  unfold Surroundings.drainRound
  generalize e.look s = looked at hlook ⊢
  obtain ⟨now, t⟩ := looked
  dsimp only at hlook ⊢
  split
  · rfl
  · split
    · rfl
    · next rid result error u heq =>
      have hu := h.receive heq
      exact hagain _ _ ((h.note _ u).trans_lt (hu.trans_le hlook))
    · next m u hm heq =>
      have hu := h.receive heq
      have hanswered := h.answer m u
      split
      · rfl
      · next v hv =>
        rw [hv] at hanswered
        exact hagain _ v (hanswered.trans_lt (hu.trans_le hlook))

/-- Any number of reads that is large enough is as good as any other: by induction on one of
them. -/
theorem await_enough (h : e.Dwindles) (b : Bounds τ) (id : MessageId) {reads more : Nat} {s : σ}
    (hreads : e.unread s < reads) (hmore : e.unread s < more) :
    e.await b id reads s = e.await b id more s := by
  induction reads generalizing more s with
  | zero => omega
  | succ reads ih =>
    cases more with
    | zero => omega
    | succ more => exact awaitRound_congr h fun t ht => ih (by omega) (by omega)

theorem drainFrom_enough (h : e.Dwindles) (start timeout : τ) (handled : Nat) {reads more : Nat}
    {s : σ} (hreads : e.unread s < reads) (hmore : e.unread s < more) :
    e.drainFrom start timeout reads handled s = e.drainFrom start timeout more handled s := by
  induction reads generalizing more handled s with
  | zero => omega
  | succ reads ih =>
    cases more with
    | zero => omega
    | succ more => exact drainRound_congr h fun n t ht => ih n (by omega) (by omega)

/-- **Waiting goes on round by round**, with no number of rounds to limit it. -/
theorem await_eq_round (h : e.Dwindles) (b : Bounds τ) (id : MessageId) (s : σ) :
    e.await b id (e.unread s + 1) s =
      e.awaitRound b id (fun t => e.await b id (e.unread t + 1) t) s :=
  awaitRound_congr h fun _ ht => await_enough h b id ht (Nat.lt_succ_self _)

end

/-! ### Bytes -/

theorem length_lt_of_splitBlockFrom {read xs block rest : Bytes}
    (h : splitBlockFrom read xs = some (block, rest)) : rest.length < xs.length := by
  fun_induction splitBlockFrom read xs with
  | case1 read => cases h
  | case2 read body =>
    obtain ⟨-, rfl⟩ := by simpa using h
    simp only [List.length_cons]
    omega
  | case3 read b tail hne ih =>
    have := ih h
    simp only [List.length_cons]
    omega

/-- A frame takes bytes away. -/
theorem length_lt_of_scan {xs body rest : Bytes} (h : scan xs = .whole body rest) :
    rest.length < xs.length := by
  obtain ⟨block, hsplit, -⟩ := scan_eq_whole_iff.mp h
  have htail := length_lt_of_splitBlockFrom hsplit
  have hskip := length_skipLineEnds_le xs
  rw [List.length_append] at htail
  omega

theorem Piece.size_kind (piece : Piece τ) : piece.kind.size = piece.bytes.length := by
  obtain ⟨time, kind⟩ := piece
  cases kind <;> rfl

theorem Inlet.unread_eq (i : Inlet τ) :
    i.unread = (i.pending.flatMap Piece.bytes).length := by
  rw [Inlet.unread]
  induction i.pending with
  | nil => rfl
  | cons piece rest ih =>
    rw [List.foldr_cons, ih, Piece.size_kind, List.flatMap_cons, List.length_append]

/-- What a message is taken off is less than before. -/
theorem Intake.Consumes.unread_lt {m : Message} {i j : Intake τ} (h : i.Consumes m j) :
    j.unread < i.unread := by
  obtain ⟨gone, body, hpending, hscan, -⟩ := h
  have hlength := length_lt_of_scan hscan
  rw [List.length_append] at hlength
  simp only [Intake.unread, Inlet.unread_eq, hpending, List.flatMap_append, List.length_append]
  omega

section

variable [Timeline τ]

theorem Channel.receive_unread {timeout : Option τ} {clock clock' : τ} {c d : Channel τ}
    {m : Message} (h : c.receive timeout clock = (.ok m, d, clock')) :
    d.intake.unread < c.intake.unread := by
  simp only [Channel.receive] at h
  rcases hread : c.intake.receive (timeout.getD c.readTimeout) clock with ⟨r, intake, ended⟩
  rw [hread] at h
  cases h
  exact (Intake.receive_consumes hread).unread_lt

/-- A chunk brings its bytes. -/
theorem Inlet.unread_feedChunk (now : τ) (i : Inlet τ) (chunk : Chunk τ) :
    (i.feedChunk now chunk).unread ≤ i.unread + chunk.size := by
  have hqueue (kinds : List (PieceKind τ)) : (i.enqueue now kinds).unread =
      i.unread + (kinds.map PieceKind.size).sum := by
    simp only [Inlet.unread_eq, Inlet.enqueue, List.flatMap_append, List.length_append,
      List.flatMap_map, List.length_flatMap]
    congr 3
    funext kind
    cases kind <;> rfl
  cases chunk with
  | data bytes =>
    have hcut : (((cut bytes).map (PieceKind.data (τ := τ))).map PieceKind.size).sum =
        bytes.length := by
      have hsizes : (((cut bytes).map (PieceKind.data (τ := τ))).map PieceKind.size) =
          (cut bytes).map List.length := List.map_map
      rw [hsizes, ← List.length_flatten, flatten_cut]
    simp only [Inlet.feedChunk]
    split
    · exact Nat.le_add_right _ _
    · rw [hqueue, hcut, Chunk.size]
  | wait time => exact Nat.le_refl _
  | close => exact (hqueue [.close]).le
  | trouble fault whileWaiting => exact (hqueue [.trouble fault whileWaiting]).le

namespace Server

/-- Whatever a server does, what is unread was counted before. -/
theorem unread_perform (now : τ) (v : Server τ) (deed : Deed τ) :
    (v.perform now deed).unread ≤ v.unread := by
  have hfeed (chunk : Chunk τ) := v.channel.intake.inlet.unread_feedChunk now chunk
  cases deed with
  | write chunk =>
    simp only [Server.perform]
    split
    · have := hfeed chunk
      simp only [Server.unread, Server.feed, Intake.unread]
      omega
    · exact Nat.le_refl _
  | exit code =>
    simp only [Server.perform, Server.finish]
    split
    · have := hfeed .close
      simp only [Server.unread, Server.feed, Intake.unread, Chunk.size] at this ⊢
      omega
    · exact Nat.le_refl _
  | breakInput writing flushing =>
    simp only [Server.perform]
    split <;> exact Nat.le_refl _

theorem unread_performAll (now : τ) (deeds : List (Deed τ)) (v : Server τ) :
    (v.performAll now deeds).unread ≤ v.unread := by
  induction deeds generalizing v with
  | nil => exact Nat.le_refl _
  | cons deed deeds ih => exact (ih _).trans (v.unread_perform now deed)

theorem unread_send (now : τ) (m : Message) (v : Server τ) :
    (v.send now m).2.unread ≤ v.unread := by
  unfold Server.send Channel.send
  generalize v.channel.outlet.write m.frame = written
  obtain ⟨fault | ⟨⟩, outlet⟩ := written
  · exact Nat.le_refl _
  · exact unread_performAll _ _ _

end Server

/-! ### Connections -/

theorem Script.dwindles : (Script.link : Link (Script τ) τ).Dwindles where
  send m s := by
    simp only [Script.link, Script.send, Action.apply_ofFun]
    split <;> exact Nat.le_refl _
  note _ _ := Nat.le_refl _
  receive {time s m t} h := by
    simp only [Script.link, Script.receive, Action.apply_ofFun] at h ⊢
    split at h
    · cases h
    · next item rest heq =>
      obtain ⟨-, rfl⟩ := Prod.mk.inj h
      simp only [heq]
      exact Nat.lt_succ_self _

theorem Line.dwindles : (Line.link : Link (Line τ) τ).Dwindles where
  send _ _ := Nat.le_refl _
  note _ _ := Nat.le_refl _
  receive {time l m t} h := by
    simp only [Line.link, Line.receive, Action.apply_ofFun] at h ⊢
    rcases hread : l.channel.receive (some time) l.clock with ⟨r, channel, clock⟩
    rw [hread] at h
    cases h
    exact Channel.receive_unread hread

theorem Wire.dwindles : (Wire.link : Link (Wire τ) τ).Dwindles where
  send m w := w.server.unread_send w.clock m
  note _ _ := Nat.le_refl _
  receive {time w m t} h := by
    simp only [Wire.link, Wire.receive, Server.receive, Action.apply_ofFun] at h ⊢
    rcases hread : w.server.channel.receive (some time) w.clock with ⟨r, channel, clock⟩
    rw [hread] at h
    cases h
    exact Nat.add_lt_add_right (Channel.receive_unread hread) _

end

theorem Scene.dwindles {ρ : Type} (handler : Handler ρ) :
    (Scene.surroundings handler : Surroundings (Scene ρ τ) τ).Dwindles where
  send _ _ := Nat.le_refl _
  handle _ _ := Nat.le_refl _
  look _ := Nat.le_refl _
  note _ _ := Nat.le_refl _
  receive {time s m t} h := by
    obtain ⟨rest, hscript, rfl⟩ := Scene.receive_ok h
    simp only [Scene.surroundings, hscript]
    exact Nat.lt_succ_self _

end ClassOrder
