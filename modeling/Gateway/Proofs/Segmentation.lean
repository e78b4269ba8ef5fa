import Gateway.Proofs.Exchange
import Gateway.Proofs.Reply

/-!
# Replies that come in pieces

A backend that closes has sent one reply, whatever the pieces were.  The loop looks at its buffer
after each read and keeps all that the last read brought.  So the pieces show in one thing only: how
much is kept beyond the declared end (`Cut`, `cut_of_closes`).  They do not show in the status, nor
in whether there is a response at all, nor in the body up to the declared length, since the head is
in every part that is kept (`relay_of_isPrefix`).

A read stays within the buffer.  So a reply is never read beyond its declared end if no read that
can start before that end has room beyond it (`Crosses`).  Any other reply that goes on after its
declared end can be cut in two ways of which one is kept exactly and the other is not
(`exists_closes`), since every state of the buffer is reached by some pieces
(`Fills.exists_pieces`).  `relay_segmentation` puts the two together, for any way in which buffers
grow: the response is the same for all pieces exactly if there is none, or if the reply does not
overrun.
-/

namespace Gateway.Proxy

open Gateway.Http

/-! ## The status and the body of a part -/

/-- A whole head holds the whole first line. -/
theorem parse?_append {part : Bytes} {e : Nat} (h : Framing.headEnd? part = some e)
    (rest : Bytes) : StatusLine.parse? (part ++ rest) = StatusLine.parse? part := by
  have hlf : (10 : UInt8) ∈ part := by
    have hblank := (Framing.headEnd?_eq_some_iff.mp h).1
    exact List.mem_of_mem_drop (hblank.subset (by decide : (10 : UInt8) ∈ Framing.blankLine))
  have hline : (part.takeWhile (· != 10)).length ≠ part.length := by
    intro hlen
    have hall : (part.takeWhile (· != 10)).all (· != 10) = true := List.all_takeWhile
    rw [(List.takeWhile_prefix _).eq_of_length hlen] at hall
    have hten := List.all_eq_true.mp hall 10 hlf
    cases hten
  rw [StatusLine.parse?, List.takeWhile_append, if_neg hline]
  rfl

/-- What follows the head has no part in the status. -/
theorem replyStatus_append {part : Bytes} {e : Nat} (h : Framing.headEnd? part = some e)
    (policy : StatusPolicy) (rest : Bytes) :
    replyStatus policy (part ++ rest) = replyStatus policy part := by
  cases policy with
  | alwaysOk => rfl
  | propagate => rw [replyStatus, replyStatus, parse?_append h]

/-- A response with no more than the first bytes of its body. -/
def shorten (m : Nat) (r : Response) : Response := Response.build r.status .empty (r.body.take m)

/-- A part with the whole head is relayed with a part of the body. -/
theorem relay_of_isPrefix {part reply : Bytes} {e : Nat} (hpart : part <+: reply)
    (he : Framing.headEnd? reply = some e) (hle : e + 4 ≤ part.length) (policy : StatusPolicy) :
    relay policy part = (relay policy reply).map (shorten (part.length - (e + 4))) := by
  have hhead : Framing.headEnd? part = some e := Framing.headEnd?_eq_of_isPrefix hpart he hle
  obtain ⟨rest, rfl⟩ := hpart
  have hbody : replyBody part = (replyBody (part ++ rest)).take (part.length - (e + 4)) := by
    rw [replyBody_eq hhead, replyBody_eq he, List.drop_append_of_le_length hle,
      ← List.length_drop, List.take_left]
  rw [relay_eq, relay_eq, replyStatus_append hhead]
  cases replyStatus policy part with
  | error fault => rfl
  | ok st =>
    show Except.ok (Response.build st .empty (replyBody part)) = _
    rw [hbody]
    rfl

/-- A response is relayed with its whole body if that is not longer. -/
theorem map_shorten_relay {policy : StatusPolicy} {reply : Bytes} {m : Nat}
    (h : (replyBody reply).length ≤ m) :
    (relay policy reply).map (shorten m) = relay policy reply := by
  rw [relay_eq]
  cases replyStatus policy reply with
  | error fault => rfl
  | ok st =>
    show Except.ok (Response.build st .empty ((replyBody reply).take m)) = _
    rw [List.take_of_length_le h]
    rfl

/-! ## Where a reply is cut -/

/-- Whether a read can go beyond an offset of a reply: it can start before it, and has room beyond
it. -/
def Crosses (growth : Growth) (limit n : Nat) : Prop :=
  ∃ size held, Fills growth limit size held ∧ held < n ∧ n < growth.next size held

/-- Whether `b` can be what is kept of a reply of a backend that closes, if the limit admits `kept`
of it. -/
structure Cut (growth : Growth) (limit : Nat) (kept b : Bytes) : Prop where
  isPrefix : b <+: kept
  all : Framing.declaredEnd? kept = none → b = kept
  reaches : ∀ n, Framing.declaredEnd? kept = some n → min n kept.length ≤ b.length
  /-- Only a read goes beyond the declared end. -/
  within : ∀ n, Framing.declaredEnd? kept = some n → n < b.length → Crosses growth limit n

theorem Finish.crosses {growth : Growth} {limit n : Nat} {whole b : Bytes}
    (h : Finish growth limit whole .ended (.ok b)) (hn : Framing.declaredEnd? whole = some n)
    (hlong : n < b.length) : Crosses growth limit n := by
  cases h with
  | @enough size held got hpart hopen hfills hroom _ =>
    refine ⟨size, held.length, hfills, Nat.lt_of_not_le fun hle => ?_, ?_⟩
    · rw [(isSatisfied_iff_of_isPrefix ((List.prefix_append _ _).trans hpart) hn).mpr hle] at hopen
      cases hopen
    · have hkept := List.length_take_le limit (held ++ got)
      have hread := List.length_take_le' limit (held ++ got)
      omega
  | closed _ hopen _ =>
    rw [(isSatisfied_iff_of_isPrefix List.prefix_rfl hn).mpr (Nat.le_of_lt hlong)] at hopen
    cases hopen
  | kept _ hend _ => cases hend

theorem cut_of_closes (growth : Growth) {limit : Nat} (hlimit : 0 < limit) {inlet : Inlet}
    {whole : Bytes} (h : inlet.Closes whole) :
    ∃ b, receive growth limit inlet = .ok b ∧ Cut growth limit (whole.take limit) b := by
  have hspec := receive_spec growth hlimit inlet
  have hfinish := finish_receive growth hlimit inlet
  rw [h.delivered, h.ending] at hspec hfinish
  obtain ⟨b, hb⟩ := hspec.exists_ok
  rw [hb] at hfinish
  refine ⟨b, hb, hspec.isPrefix b hb, fun hnone => ?_, fun n hn => hspec.min_le_length hb hn,
    fun n hn hlong => ?_⟩
  · refine hspec.eq_take hb fun n hn => ?_
    rw [hnone] at hn
    cases hn
  · have hwhole := Framing.declaredEnd?_append hn (whole.drop limit)
    rw [List.take_append_drop] at hwhole
    exact hfinish.crosses hwhole hlong

/-! ## Two ways to cut -/

theorem isSatisfied_eq_false_of_isPrefix {part whole : Bytes} (hpart : part <+: whole)
    (h : isSatisfied whole = false) : isSatisfied part = false := by
  rw [Bool.eq_false_iff] at h ⊢
  intro hsat
  obtain ⟨n, hn, hle⟩ := isSatisfied_iff.mp hsat
  obtain ⟨rest, rfl⟩ := hpart
  refine h (isSatisfied_iff.mpr ⟨n, Framing.declaredEnd?_append hn rest, ?_⟩)
  rw [List.length_append]
  exact Nat.le_trans hle (Nat.le_add_right _ _)

theorem take_append_drop_take {m n : Nat} (h : m ≤ n) (whole : Bytes) :
    whole.take m ++ (whole.take n).drop m = whole.take n := by
  have hsplit := List.take_append_drop m (whole.take n)
  rwa [List.take_take, Nat.min_eq_left h] at hsplit

section

variable {growth : Growth} {limit size : Nat}

/-- A piece that has room in the buffer and leaves the reply open below the limit is read at
once. -/
theorem receiveInto_data {buffer piece : Bytes} (hne : piece ≠ [])
    (hroom : (buffer ++ piece).length ≤ growth.next size buffer.length)
    (hlt : (buffer ++ piece).length < limit) (hopen : isSatisfied (buffer ++ piece) = false)
    (rest : Inlet) : receiveInto growth limit size buffer (.data piece :: rest)
      = receiveInto growth limit (growth.next size buffer.length) (buffer ++ piece) rest := by
  have hfits : piece.length ≤ growth.next size buffer.length - buffer.length := by
    rw [List.length_append] at hroom
    omega
  rw [receiveInto_eq, Inlet.read_data_of_le hne hfits]
  dsimp only
  rw [if_neg (Nat.not_le_of_lt hlt), hopen, if_neg Bool.false_ne_true]

/-- A read that satisfies the reply is the last one. -/
theorem receiveInto_of_isSatisfied {buffer got : Bytes} {inlet rest : Inlet}
    (hread : inlet.read (growth.next size buffer.length - buffer.length) = (.bytes got, rest))
    (hsat : isSatisfied (buffer ++ got) = true) :
    receiveInto growth limit size buffer inlet = .ok ((buffer ++ got).take limit) := by
  rw [receiveInto_eq, hread]
  dsimp only
  rw [if_pos hsat]
  split
  · rfl
  · next hlt => rw [List.take_of_length_le (Nat.le_of_not_le hlt)]

/-- A first piece that fits into the buffer and satisfies the reply is all that is kept of it. -/
theorem receive_of_isSatisfied {piece : Bytes} (hne : piece ≠ [])
    (hfits : piece.length ≤ growth.next (min firstRoom limit) 0) (hsat : isSatisfied piece = true)
    (rest : Inlet) : receive growth limit (.data piece :: rest) = .ok (piece.take limit) :=
  @receiveInto_of_isSatisfied growth limit _ [] piece _ _
    (Inlet.read_data_of_le hne hfits rest) hsat

/-- Each state of the buffer is reached by some pieces of a reply that is open so far.  The pieces
are what the reads bring that lead to the state. -/
theorem Fills.exists_pieces {held : Nat} (h : Fills growth limit size held) {whole : Bytes} :
    held < limit → held ≤ whole.length → isSatisfied (whole.take held) = false →
    ∃ pieces : List Bytes, (∀ piece ∈ pieces, piece ≠ []) ∧ pieces.flatten = whole.take held ∧
      ∀ rest : Inlet, receive growth limit (pieces.map .data ++ rest)
        = receiveInto growth limit size (whole.take held) rest := by
  induction h with
  | empty => exact fun _ _ _ => ⟨[], List.forall_mem_nil _, rfl, fun rest => rfl⟩
  | @read size held more _ hlt hroom ih =>
    intro hlimit hle hopen
    have hsplit := take_append_drop_take (Nat.le_of_lt hlt) whole
    obtain ⟨pieces, hpieces, hflatten, hreceive⟩ := ih (by omega) (by omega)
      (isSatisfied_eq_false_of_isPrefix ⟨_, hsplit⟩ hopen)
    have hne : (whole.take more).drop held ≠ [] := by
      rw [Ne, List.drop_eq_nil_iff, List.length_take]
      omega
    refine ⟨pieces ++ [(whole.take more).drop held], ?_, ?_, fun rest => ?_⟩
    · exact List.forall_mem_append.mpr ⟨hpieces, List.forall_mem_singleton.mpr hne⟩
    · rw [List.flatten_append, hflatten, List.flatten_singleton, hsplit]
    · have hheld : (whole.take held).length = held := by
        rw [List.length_take]
        omega
      have hmore : (whole.take more).length = more := by
        rw [List.length_take]
        omega
      rw [List.map_append, List.append_assoc]
      show receive growth limit (pieces.map .data ++ .data _ :: rest) = _
      rw [hreceive, receiveInto_data hne (by rwa [hsplit, hmore, hheld])
        (by rwa [hsplit, hmore]) (by rwa [hsplit]), hsplit, hheld]

/-- A backend can send all of a reply in such pieces that a read starts at a state of the buffer.
If that read satisfies the reply, what is kept ends with it. -/
theorem Fills.exists_closes {held : Nat} (h : Fills growth limit size held) {whole : Bytes}
    (piece : Bytes) (others : List Bytes) (hlimit : held < limit) (hle : held ≤ whole.length)
    (hopen : isSatisfied (whole.take held) = false)
    (hne : ∀ p ∈ piece :: others, p ≠ [])
    (hwhole : whole.take held ++ (piece :: others).flatten = whole)
    (hsat : isSatisfied (whole.take held ++ piece.take (growth.next size held - held)) = true) :
    ∃ i, Inlet.Closes i whole ∧ receive growth limit i
      = .ok ((whole.take held ++ piece.take (growth.next size held - held)).take limit) := by
  obtain ⟨pieces, hpieces, hflatten, hreceive⟩ := h.exists_pieces hlimit hle hopen
  refine ⟨(pieces ++ piece :: others).map .data, ?_, ?_⟩
  · have hcloses := Inlet.closes_map_data (List.forall_mem_append.mpr ⟨hpieces, hne⟩)
    rwa [List.flatten_append, hflatten, hwhole] at hcloses
  · obtain ⟨left, hread⟩ := Inlet.exists_read_data (growth.next size held - held)
      (hne piece List.mem_cons_self) (others.map .data)
    have hheld : (whole.take held).length = held := List.length_take_of_le hle
    rw [List.map_append, hreceive]
    exact receiveInto_of_isSatisfied (by rw [hheld]; exact hread) hsat

/-- A reply that goes on after a declared end that a read can cross can be kept up to that end, and
can be kept beyond it. -/
theorem exists_closes {n : Nat} {whole : Bytes}
    (hn : Framing.declaredEnd? (whole.take limit) = some n) (hlong : n < (whole.take limit).length)
    (hcrosses : Crosses growth limit n) :
    (∃ i b, Inlet.Closes i whole ∧ receive growth limit i = .ok b ∧ b.length = n) ∧
      ∃ j b, Inlet.Closes j whole ∧ receive growth limit j = .ok b ∧ n < b.length := by
  have hend := Framing.declaredEnd?_append hn (whole.drop limit)
  rw [List.take_append_drop] at hend
  rw [List.length_take] at hlong
  obtain ⟨size, held, hfills, hheld, hroom⟩ := hcrosses
  have hsat : ∀ k, isSatisfied (whole.take k) = true ↔ n ≤ min k whole.length := by
    intro k
    rw [isSatisfied_iff_of_isPrefix (List.take_prefix _ _) hend, List.length_take]
  have hopen : isSatisfied (whole.take held) = false := by
    rw [Bool.eq_false_iff, Ne, hsat]
    omega
  constructor
  · -- a piece that ends where the declared body does
    have hsplit := take_append_drop_take (Nat.le_of_lt hheld) whole
    have hpiece : ((whole.take n).drop held).take (growth.next size held - held)
        = (whole.take n).drop held := by
      refine List.take_of_length_le ?_
      rw [List.length_drop, List.length_take]
      omega
    obtain ⟨i, hi, hreceive⟩ := hfills.exists_closes ((whole.take n).drop held)
      [whole.drop n] (by omega) (by omega) hopen
      (by simp only [List.forall_mem_cons, Ne, List.drop_eq_nil_iff, List.length_take]; simp; omega)
      (by rw [List.flatten_cons, List.flatten_singleton, ← List.append_assoc, hsplit,
        List.take_append_drop])
      (by rw [hpiece, hsplit, hsat]; omega)
    refine ⟨i, _, hi, hreceive, ?_⟩
    rw [hpiece, hsplit, List.length_take, List.length_take]
    omega
  · -- all that is left in one piece
    have hread : whole.take held ++ (whole.drop held).take (growth.next size held - held)
        = whole.take (growth.next size held) := by
      rw [← List.take_add, Nat.add_sub_cancel' (by omega)]
    obtain ⟨j, hj, hreceive⟩ := hfills.exists_closes (whole.drop held) []
      (by omega) (by omega) hopen (by simp; omega)
      (by rw [List.flatten_singleton, List.take_append_drop])
      (by rw [hread, hsat]; omega)
    refine ⟨j, _, hj, hreceive, ?_⟩
    rw [hread, List.length_take, List.length_take]
    omega

end

/-! ## The response -/

/-- Whether a reply goes on after a declared end that a read can cross, and there is a response for
it. -/
structure Overruns (growth : Growth) (policy : StatusPolicy) (limit : Nat) (kept : Bytes) :
    Prop where
  accepted : ∃ r, relay policy kept = .ok r
  beyond : ∃ n, Framing.declaredEnd? kept = some n ∧ n < kept.length ∧ Crosses growth limit n

/-- What is relayed of a part that can be kept. -/
theorem Cut.exists_relay_eq {growth : Growth} {limit : Nat} {kept b : Bytes}
    (h : Cut growth limit kept b) (policy : StatusPolicy) :
    ∃ m, (∀ r, relay policy kept = .ok r → Framing.declaredLength? kept = none →
        r.body.length ≤ m) ∧
      (∀ d, Framing.declaredLength? kept = some d → Framing.InRange kept → d ≤ m) ∧
      relay policy b = (relay policy kept).map (shorten m) := by
  by_cases hall : b = kept
  · refine ⟨(replyBody kept).length + (Framing.declaredLength? kept).getD 0, fun r hr _ => ?_,
      fun d hd _ => ?_, ?_⟩
    · rw [body_of_relay hr]
      exact Nat.le_add_right _ _
    · rw [hd]
      exact Nat.le_add_left _ _
    · rw [map_shorten_relay (Nat.le_add_right _ _), hall]
  · cases hn : Framing.declaredEnd? kept with
    | none => exact absurd (h.all hn) hall
    | some n =>
      have hreach := h.reaches n hn
      have hshort : b.length < kept.length := Nat.lt_of_not_le fun hle =>
        hall (h.isPrefix.eq_of_length_le hle)
      obtain ⟨e, d, he, hd, rfl⟩ := Framing.declaredEnd?_eq_some_iff.mp hn
      have hhead := Framing.le_messageLength e d
      refine ⟨b.length - (e + 4), fun r _ hnone => ?_, fun d' hd' hrange => ?_,
        relay_of_isPrefix h.isPrefix he (by omega) policy⟩
      · rw [hd] at hnone
        cases hnone
      · have hfits := hrange e he
        rw [hd'] at hd hfits
        cases hd
        rw [Option.getD_some] at hfits
        rw [Framing.messageLength_of_lt hfits] at hreach
        omega

/-- There is one way to cut a reply that does not go on after its declared end, or only after one
that no read can cross. -/
theorem Cut.eq_of_not_beyond {growth : Growth} {limit : Nat} {kept b b' : Bytes}
    (h : Cut growth limit kept b) (h' : Cut growth limit kept b')
    (hbeyond : ¬ ∃ n, Framing.declaredEnd? kept = some n ∧ n < kept.length ∧
      Crosses growth limit n) : b = b' := by
  cases hn : Framing.declaredEnd? kept with
  | none => rw [h.all hn, h'.all hn]
  | some n =>
    have hlength : ∀ {b : Bytes}, Cut growth limit kept b → b.length = min n kept.length := by
      intro b h
      have hreach := h.reaches n hn
      have hlen := h.isPrefix.length_le
      by_cases hlong : n < b.length
      · exact absurd ⟨n, hn, by omega, h.within n hn hlong⟩ hbeyond
      · omega
    have hlen : b.length = b'.length := (hlength h).trans (hlength h').symm
    exact (List.prefix_of_prefix_length_le h.isPrefix h'.isPrefix (Nat.le_of_eq hlen)).eq_of_length
      hlen

/-- However a backend cuts its reply before it closes and its buffer grows, there is a response
exactly if there is one for all that the limit admits, and it is that response with a part of its
body.  The part is the whole body if no length is declared, and it has the declared length, at
least, if that is within 64 bits.  The response is the same for all ways of cutting exactly if the
reply does not overrun. -/
theorem relay_segmentation (s : Settings) (hlimit : 0 < s.maxResponseSize) (growth : Growth)
    (endpoint : Endpoint) (whole : Bytes) :
    let kept := whole.take s.maxResponseSize
    (∀ i : Inlet, i.Closes whole → ∃ m,
      (∀ r, relay s.policy kept = .ok r → Framing.declaredLength? kept = none →
        r.body.length ≤ m) ∧
      (∀ d, Framing.declaredLength? kept = some d → Framing.InRange kept → d ≤ m) ∧
      conclude s growth endpoint (.accepted .sent i) = (relay s.policy kept).map (shorten m)) ∧
    ((∀ i j : Inlet, i.Closes whole → j.Closes whole →
        conclude s growth endpoint (.accepted .sent i)
          = conclude s growth endpoint (.accepted .sent j)) ↔
      ¬ Overruns growth s.policy s.maxResponseSize kept) := by
  intro kept
  refine ⟨fun i hi => ?_, fun hsame hover => ?_, fun hover i j hi hj => ?_⟩
  · obtain ⟨b, hb, hcut⟩ := cut_of_closes growth hlimit hi
    rw [conclude_of_receive hb]
    exact hcut.exists_relay_eq s.policy
  · obtain ⟨n, hn, hlong, hcrosses⟩ := hover.beyond
    obtain ⟨r, hr⟩ := hover.accepted
    obtain ⟨⟨i, b, hi, hb, hexact⟩, j, b', hj, hb', hmore⟩ := exists_closes hn hlong hcrosses
    obtain ⟨e, d, he, -, hsum⟩ := Framing.declaredEnd?_eq_some_iff.mp hn
    have hhead := Framing.le_messageLength e d
    have hbody : r.body.length = kept.length - (e + 4) := by
      rw [body_of_relay hr, replyBody_eq he, List.length_drop]
    have hresponse : ∀ {i : Inlet} {b : Bytes}, i.Closes whole →
        receive growth s.maxResponseSize i = .ok b → n ≤ b.length →
        conclude s growth endpoint (.accepted .sent i) = .ok (shorten (b.length - (e + 4)) r) := by
      intro i b hi hb hle
      obtain ⟨b', hb', hcut⟩ := cut_of_closes growth hlimit hi
      rw [hb] at hb'
      cases hb'
      rw [conclude_of_receive hb, relay_of_isPrefix hcut.isPrefix he (by omega), hr]
      rfl
    have heq := hsame i j hi hj
    rw [hresponse hi hb (Nat.le_of_eq hexact.symm), hresponse hj hb' (Nat.le_of_lt hmore),
      Except.ok.injEq] at heq
    have hlen : (r.body.take (b.length - (e + 4))).length
        = (r.body.take (b'.length - (e + 4))).length := congrArg (fun x => x.body.length) heq
    rw [List.length_take, List.length_take, hbody] at hlen
    omega
  · obtain ⟨b, hb, hcut⟩ := cut_of_closes growth hlimit hi
    obtain ⟨b', hb', hcut'⟩ := cut_of_closes growth hlimit hj
    rw [conclude_of_receive hb, conclude_of_receive hb']
    cases hr : relay s.policy kept with
    | error fault =>
      obtain ⟨m, -, -, hm⟩ := hcut.exists_relay_eq s.policy
      obtain ⟨m', -, -, hm'⟩ := hcut'.exists_relay_eq s.policy
      rw [hm, hm', hr]
      rfl
    | ok r => rw [hcut.eq_of_not_beyond hcut' fun hbeyond => hover ⟨⟨r, hr⟩, hbeyond⟩]

/-- A reply with a body of the length it declares. -/
def fittingReply : Bytes := Utf8.encode "HTTP/1.1 200 OK\r\nContent-Length: 1\r\n\r\na".toList

/-- It is relayed in the same way if it comes at once and if its head comes in two pieces. -/
theorem relay_segmentation_fitting :
    0 < ({} : Settings).maxResponseSize ∧
      conclude {} .doubling ⟨"localhost".toList, 80⟩ (.accepted .sent [.data fittingReply]) =
        conclude {} .doubling ⟨"localhost".toList, 80⟩
          (.accepted .sent [.data (fittingReply.take 20), .data (fittingReply.drop 20)]) := by
  refine ⟨by decide, ?_⟩
  obtain ⟨-, hsame⟩ :=
    relay_segmentation {} (by decide) .doubling ⟨"localhost".toList, 80⟩ fittingReply
  refine hsame.mpr (fun hover => ?_) _ _ ⟨rfl, rfl⟩ ⟨rfl, rfl⟩
  obtain ⟨n, hn, hlong, -⟩ := hover.beyond
  have hend : Framing.declaredEnd? (fittingReply.take 65536) = some 39 := by decide
  rw [hend] at hn
  cases hn
  exact absurd hlong (by decide)

/-- A reply with a body of three bytes, of which it declares one. -/
def overlongReply : Bytes := Utf8.encode "HTTP/1.1 200 OK\r\nContent-Length: 1\r\n\r\nabc".toList

/-- If it comes at once, the whole body is relayed, and if the last two bytes come in a piece of
their own, they are not. -/
theorem not_relay_segmentation :
    ¬ ∀ (s : Settings) (endpoint : Endpoint) (whole : Bytes) (i j : Inlet),
      0 < s.maxResponseSize → i.Closes whole → j.Closes whole →
        conclude s .doubling endpoint (.accepted .sent i)
          = conclude s .doubling endpoint (.accepted .sent j) := by
  intro hsame
  have heq := hsame {} ⟨"localhost".toList, 80⟩ overlongReply [.data overlongReply]
    [.data (overlongReply.take 39), .data (overlongReply.drop 39)] (by decide) ⟨rfl, rfl⟩ ⟨rfl, rfl⟩
  have hwhole : receive .doubling 65536 [.data overlongReply] = .ok overlongReply :=
    receive_of_isSatisfied (by decide) (by decide) (by decide) []
  have hcut : receive .doubling 65536 [.data (overlongReply.take 39), .data (overlongReply.drop 39)]
      = .ok (overlongReply.take 39) :=
    receive_of_isSatisfied (by decide) (by decide) (by decide) _
  rw [conclude_of_receive hwhole, conclude_of_receive hcut] at heq
  have hbody : some (Utf8.encode "abc".toList) = some (Utf8.encode "a".toList) :=
    congrArg (fun outcome => outcome.toOption.map Response.body) heq
  exact absurd hbody (by decide)

end Gateway.Proxy
