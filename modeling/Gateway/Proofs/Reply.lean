import Gateway.Proxy.Exchange
import Gateway.Proofs.Inlet
import Gateway.Proofs.Framing

/-!
# What is read of a reply

A reply is read into a buffer that grows, and the reading stops at the limit, at the end of the
backend or as soon as the buffer holds all that its head declares.  `Finish` lists the ways in which
the loop may end, and `finish_receiveInto` shows that there are no others, by induction on its
reads.  The sizes of the reads show in one thing only: a read starts at one of the states that the
buffer can have (`Fills`) and does not go beyond the room of its next size.

What was read is all that the limit admits, unless it is a satisfied part of that
(`receive_spec`).  A part is satisfied exactly if it reaches the declared end.  So nothing but the
limit and the end of the backend cuts a reply short of what it declares, and a backend that falls
silent has failed only if it is below the limit and has sent no whole head (`receive_holds`).  A
backend that closes and sends no more than it declares is read to its end (`receive_eq_ok`).
-/

namespace Gateway.Proxy

open Gateway.Http

/-! ## The declared end -/

/-- What is satisfied reaches the end that its head declares. -/
theorem isSatisfied_iff {b : Bytes} :
    isSatisfied b = true ↔ ∃ m, Framing.declaredEnd? b = some m ∧ m ≤ b.length := by
  rw [isSatisfied, Bool.and_eq_true, Framing.isComplete_iff]
  constructor
  · rintro ⟨hdeclared, k, hk, hle⟩
    obtain ⟨d, hd⟩ := Option.isSome_iff_exists.mp hdeclared
    obtain ⟨n, hn, rfl⟩ := Option.map_eq_some_iff.mp hk
    rw [hd, Option.getD_some] at hle
    exact ⟨_, Framing.declaredEnd?_eq_some_iff.mpr ⟨n, d, hn, hd, rfl⟩, hle⟩
  · rintro ⟨m, hm, hle⟩
    obtain ⟨n, d, hn, hd, rfl⟩ := Framing.declaredEnd?_eq_some_iff.mp hm
    exact ⟨by rw [hd, Option.isSome_some], _, Framing.messageLength?_eq hn,
      by rwa [hd, Option.getD_some]⟩

/-- A part of a reply is satisfied exactly if it reaches the declared end. -/
theorem isSatisfied_iff_of_isPrefix {part whole : Bytes} {m : Nat} (hpart : part <+: whole)
    (h : Framing.declaredEnd? whole = some m) : isSatisfied part = true ↔ m ≤ part.length := by
  constructor
  · intro hsat
    obtain ⟨k, hk, hle⟩ := isSatisfied_iff.mp hsat
    obtain ⟨rest, rfl⟩ := hpart
    rw [Framing.declaredEnd?_append hk rest] at h
    cases h
    exact hle
  · intro hle
    exact isSatisfied_iff.mpr ⟨m, Framing.declaredEnd?_of_isPrefix hpart h hle, hle⟩

/-! ## The buffer -/

/-- The sizes that the buffer of a reply can have before a read, and how many bytes it can hold
then.  Each read brings at least one byte and no more than there is room for. -/
inductive Fills (growth : Growth) (limit : Nat) : (size held : Nat) → Prop where
  | empty : Fills growth limit (min firstRoom limit) 0
  | read {size held more : Nat} : Fills growth limit size held → held < more →
    more ≤ growth.next size held → Fills growth limit (growth.next size held) more

/-! ## The loop -/

/-- How reading a reply ends, for the bytes `whole` that the backend sends in all and for what it
does then. -/
inductive Finish (growth : Growth) (limit : Nat) (whole : Bytes) (ending : Reading) :
    Except Fault Bytes → Prop where
  /-- A read reaches the limit or the declared end. -/
  | enough {size : Nat} {held got : Bytes} :
    held ++ got <+: whole → isSatisfied held = false →
    Fills growth limit size held.length → (held ++ got).length ≤ growth.next size held.length →
    limit ≤ (held ++ got).length ∨ isSatisfied (held ++ got) = true →
    Finish growth limit whole ending (.ok ((held ++ got).take limit))
  | closed : whole.length < limit → isSatisfied whole = false → ending = .ended →
    Finish growth limit whole ending (.ok whole)
  | failed {fault : Fault} : whole.length < limit → ending = .failed fault →
    Finish growth limit whole ending (.error fault)
  /-- The backend falls silent after a whole head. -/
  | kept : whole.length < limit → ending = .timedOut → (Framing.headEnd? whole).isSome = true →
    Finish growth limit whole ending (.ok whole)
  /-- It falls silent before that. -/
  | silent : whole.length < limit → ending = .timedOut → Framing.headEnd? whole = none →
    Finish growth limit whole ending (.error (timedOut "receive"))

section

variable {growth : Growth} {limit size : Nat} {buffer got : Bytes} {inlet rest : Inlet}

/-- One turn of the loop. -/
theorem receiveInto_eq (growth : Growth) (limit size : Nat) (buffer : Bytes) (inlet : Inlet) :
    receiveInto growth limit size buffer inlet =
      match inlet.read (growth.next size buffer.length - buffer.length) with
      | (.bytes got, rest) =>
        if limit ≤ (buffer ++ got).length then .ok ((buffer ++ got).take limit)
        else if isSatisfied (buffer ++ got) then .ok (buffer ++ got)
        else receiveInto growth limit (growth.next size buffer.length) (buffer ++ got) rest
      | (.ended, _) => .ok buffer
      | (.failed fault, _) => .error fault
      | (.timedOut, _) =>
        if (Framing.headEnd? buffer).isSome then .ok buffer else .error (timedOut "receive") := by
  rw [receiveInto]
  split
  · next hread =>
    rw [hread]
    rfl
  all_goals next hread => rw [hread]

/-- What a read brings stays within the buffer. -/
theorem length_append_le_next
    (hread : inlet.read (growth.next size buffer.length - buffer.length) = (.bytes got, rest)) :
    (buffer ++ got).length ≤ growth.next size buffer.length := by
  have hroom := growth.lt_next size buffer.length
  have hgot := (Inlet.read_bytes (Nat.sub_pos_of_lt hroom) hread).2
  rw [List.length_append]
  omega

theorem Fills.append (hfills : Fills growth limit size buffer.length)
    (hread : inlet.read (growth.next size buffer.length - buffer.length) = (.bytes got, rest)) :
    Fills growth limit (growth.next size buffer.length) (buffer ++ got).length := by
  refine hfills.read ?_ (length_append_le_next hread)
  have hgot := (Inlet.read_bytes (Nat.sub_pos_of_lt (growth.lt_next _ _)) hread).1
  rw [List.length_append]
  omega

end

/-- The loop ends in one of these ways, along its reads. -/
theorem finish_receiveInto (growth : Growth) (limit size : Nat) (buffer : Bytes) (inlet : Inlet) :
    buffer.length < limit → isSatisfied buffer = false → Fills growth limit size buffer.length →
      Finish growth limit (buffer ++ inlet.delivered) inlet.ending
        (receiveInto growth limit size buffer inlet) := by
  induction size, buffer, inlet using receiveInto.induct growth limit with
  | case1 size buffer inlet got rest hread hlimit =>
    intro _ hopen hfills
    obtain ⟨hbytes, -⟩ := Inlet.read_eq_bytes hread
    rw [receiveInto_eq, hread, hbytes, ← List.append_assoc]
    dsimp only
    rw [if_pos hlimit]
    exact .enough (List.prefix_append _ _) hopen hfills (length_append_le_next hread)
      (Or.inl hlimit)
  | case2 size buffer inlet got rest hread hlimit hsat =>
    intro _ hopen hfills
    obtain ⟨hbytes, -⟩ := Inlet.read_eq_bytes hread
    rw [receiveInto_eq, hread, hbytes, ← List.append_assoc]
    dsimp only
    rw [if_neg hlimit, if_pos hsat]
    have hfinish : Finish growth limit (buffer ++ got ++ rest.delivered) inlet.ending
        (.ok ((buffer ++ got).take limit)) :=
      .enough (List.prefix_append _ _) hopen hfills (length_append_le_next hread) (Or.inr hsat)
    rw [List.take_of_length_le (Nat.le_of_lt (Nat.lt_of_not_le hlimit))] at hfinish
    exact hfinish
  | case3 size buffer inlet got rest hread hlimit hsat ih =>
    intro _ hopen hfills
    obtain ⟨hbytes, hend⟩ := Inlet.read_eq_bytes hread
    rw [receiveInto_eq, hread, hbytes, hend, ← List.append_assoc]
    dsimp only
    rw [if_neg hlimit, if_neg hsat]
    exact ih (Nat.lt_of_not_le hlimit) (Bool.eq_false_iff.mpr hsat) (hfills.append hread)
  | case4 size buffer inlet rest hread =>
    intro hlt hopen _
    obtain ⟨hnone, hend⟩ := Inlet.read_eq_ending hread (by intro got h; cases h)
    rw [receiveInto_eq, hread, hnone, List.append_nil]
    exact .closed hlt hopen hend
  | case5 size buffer inlet fault rest hread =>
    intro hlt _ _
    obtain ⟨hnone, hend⟩ := Inlet.read_eq_ending hread (by intro got h; cases h)
    rw [receiveInto_eq, hread, hnone, List.append_nil]
    exact .failed hlt hend
  | case6 size buffer inlet rest hread hhead =>
    intro hlt _ _
    obtain ⟨hnone, hend⟩ := Inlet.read_eq_ending hread (by intro got h; cases h)
    rw [receiveInto_eq, hread, hnone, List.append_nil]
    dsimp only
    rw [if_pos hhead]
    exact .kept hlt hend hhead
  | case7 size buffer inlet rest hread hhead =>
    intro hlt _ _
    obtain ⟨hnone, hend⟩ := Inlet.read_eq_ending hread (by intro got h; cases h)
    rw [receiveInto_eq, hread, hnone, List.append_nil]
    dsimp only
    rw [if_neg hhead]
    exact .silent hlt hend (Option.not_isSome_iff_eq_none.mp hhead)

theorem finish_receive (growth : Growth) {limit : Nat} (hlimit : 0 < limit) (inlet : Inlet) :
    Finish growth limit inlet.delivered inlet.ending (receive growth limit inlet) :=
  finish_receiveInto growth limit _ [] inlet hlimit rfl .empty

/-! ## What is kept -/

/-- What reading a reply of a backend can come to, for the bytes `whole` that the backend sends in
all. -/
structure Received (limit : Nat) (whole : Bytes) (ending : Reading) (outcome : Except Fault Bytes) :
    Prop where
  /-- What is kept is a part of what the limit admits. -/
  isPrefix : ∀ b, outcome = .ok b → b <+: whole.take limit
  /-- It is all of it, or satisfied. -/
  enough : ∀ b, outcome = .ok b → b = whole.take limit ∨ isSatisfied b = true
  /-- Reading fails below the limit, where the backend fails or is silent before its head is
  whole. -/
  error : ∀ f, outcome = .error f → whole.length < limit ∧ (ending = .failed f ∨
    (ending = .timedOut ∧ f = timedOut "receive" ∧ Framing.headEnd? whole = none))

theorem Received.of_ok {limit : Nat} {whole b : Bytes} {ending : Reading}
    (hpart : b <+: whole.take limit) (henough : b = whole.take limit ∨ isSatisfied b = true) :
    Received limit whole ending (.ok b) where
  isPrefix := by
    intro _ h
    cases h
    exact hpart
  enough := by
    intro _ h
    cases h
    exact henough
  error := by
    intro _ h
    cases h

theorem Received.of_error {limit : Nat} {whole : Bytes} {ending : Reading} {fault : Fault}
    (hroom : whole.length < limit) (hending : ending = .failed fault ∨
      (ending = .timedOut ∧ fault = timedOut "receive" ∧ Framing.headEnd? whole = none)) :
    Received limit whole ending (.error fault) where
  isPrefix := by
    intro _ h
    cases h
  enough := by
    intro _ h
    cases h
  error := by
    intro _ h
    cases h
    exact ⟨hroom, hending⟩

/-- A backend that closes is read without a failure. -/
theorem Received.exists_ok {limit : Nat} {whole : Bytes} {outcome : Except Fault Bytes}
    (h : Received limit whole .ended outcome) : ∃ b, outcome = .ok b := by
  cases outcome with
  | ok b => exact ⟨b, rfl⟩
  | error f => rcases (h.error f rfl).2 with hf | ⟨hf, -⟩ <;> cases hf

/-- All of a reply is kept that does not go on beyond its declared end. -/
theorem Received.eq_take {limit : Nat} {whole b : Bytes} {ending : Reading}
    {outcome : Except Fault Bytes} (h : Received limit whole ending outcome) (hb : outcome = .ok b)
    (hshort : ∀ n, Framing.declaredEnd? (whole.take limit) = some n →
      (whole.take limit).length ≤ n) : b = whole.take limit := by
  have hpart := h.isPrefix b hb
  rcases h.enough b hb with hall | hsat
  · exact hall
  · obtain ⟨n, hn, hle⟩ := isSatisfied_iff.mp hsat
    obtain ⟨rest, hrest⟩ := hpart
    have hkept := Framing.declaredEnd?_append hn rest
    rw [hrest] at hkept
    exact List.IsPrefix.eq_of_length_le ⟨rest, hrest⟩ (Nat.le_trans (hshort n hkept) hle)

/-- What is kept of a reply reaches the declared end, if the limit admits that. -/
theorem Received.min_le_length {limit n : Nat} {whole b : Bytes} {ending : Reading}
    {outcome : Except Fault Bytes} (h : Received limit whole ending outcome) (hb : outcome = .ok b)
    (hn : Framing.declaredEnd? (whole.take limit) = some n) :
    min n (whole.take limit).length ≤ b.length := by
  rcases h.enough b hb with hall | hsat
  · rw [hall]
    exact Nat.min_le_right _ _
  · exact Nat.le_trans (Nat.min_le_left _ _)
      ((isSatisfied_iff_of_isPrefix (h.isPrefix b hb) hn).mp hsat)

/-- A part that reaches the limit is all that the limit admits. -/
theorem take_eq_of_isPrefix {limit : Nat} {part whole : Bytes} (hpart : part <+: whole)
    (h : limit ≤ part.length) : part.take limit = whole.take limit := by
  obtain ⟨rest, rfl⟩ := hpart
  exact (List.take_append_of_le_length h).symm

/-- What reading a reply comes to. -/
theorem receive_spec (growth : Growth) {limit : Nat} (hlimit : 0 < limit) (inlet : Inlet) :
    Received limit inlet.delivered inlet.ending (receive growth limit inlet) := by
  have hfinish := finish_receive growth hlimit inlet
  generalize receive growth limit inlet = outcome at hfinish
  cases hfinish with
  | @enough size held got hpart _ _ _ hstop =>
    refine .of_ok (List.prefix_take_iff.mpr
      ⟨(List.take_prefix _ _).trans hpart, List.length_take_le _ _⟩) ?_
    by_cases hfull : limit ≤ (held ++ got).length
    · exact Or.inl (take_eq_of_isPrefix hpart hfull)
    · right
      rw [List.take_of_length_le (Nat.le_of_not_le hfull)]
      exact hstop.resolve_left hfull
  | closed hroom _ _ | kept hroom _ _ =>
    have hall := List.take_of_length_le (Nat.le_of_lt hroom)
    exact .of_ok (hall.symm ▸ List.prefix_rfl) (Or.inl hall.symm)
  | failed hroom hend => exact .of_error hroom (Or.inl hend)
  | silent hroom hend hnone => exact .of_error hroom (Or.inr ⟨hend, rfl, hnone⟩)

/-- A backend that falls silent before the limit and before its head is whole has failed. -/
theorem exists_receive_eq_error (growth : Growth) {limit : Nat} (hlimit : 0 < limit) {inlet : Inlet}
    (hend : inlet.ending = .timedOut) (hlt : inlet.delivered.length < limit)
    (hnone : Framing.headEnd? inlet.delivered = none) :
    ∃ f, receive growth limit inlet = .error f := by
  have hfinish := finish_receive growth hlimit inlet
  rw [hend] at hfinish
  generalize receive growth limit inlet = outcome at hfinish
  cases hfinish with
  | @enough size held got hpart _ _ _ hstop =>
    -- neither the limit nor a declared end can be reached
    rcases hstop with hfull | hsat
    · exact absurd (Nat.le_trans hfull hpart.length_le) (Nat.not_le_of_lt hlt)
    · obtain ⟨n, hn, -⟩ := isSatisfied_iff.mp hsat
      obtain ⟨e, d, he, -, -⟩ := Framing.declaredEnd?_eq_some_iff.mp hn
      rw [Framing.headEnd?_of_isPrefix hpart he] at hnone
      cases hnone
  | closed _ _ hended => cases hended
  | failed _ _ => exact ⟨_, rfl⟩
  | kept _ _ hhead =>
    rw [hnone] at hhead
    cases hhead
  | silent _ _ _ => exact ⟨_, rfl⟩

/-- However a reply is cut and its buffer grows, what is kept of it is a part of what the limit
admits, and all of it unless that goes on beyond the declared end.  Then what is kept goes as far as
that end, at least.  A backend that closes is read without a failure.  One that falls silent has
failed exactly if it is below the limit and has sent no whole head. -/
theorem receive_holds (growth : Growth) {limit : Nat} (hlimit : 0 < limit) (inlet : Inlet) :
    let s := inlet.delivered
    let kept := s.take limit
    (∀ b, receive growth limit inlet = .ok b →
      b <+: kept ∧
      ((∀ n, Framing.declaredEnd? kept = some n → kept.length ≤ n) → b = kept) ∧
      (∀ n, Framing.declaredEnd? kept = some n → n < kept.length →
        n ≤ b.length ∧ b.length ≤ kept.length)) ∧
    (inlet.ending = .ended → ∃ b, receive growth limit inlet = .ok b) ∧
    (inlet.ending = .timedOut →
      ((∃ f, receive growth limit inlet = .error f) ↔
        s.length < limit ∧ Framing.headEnd? s = none)) := by
  intro s kept
  have hspec : Received limit s inlet.ending _ := receive_spec growth hlimit inlet
  refine ⟨fun b hb => ?_, fun hend => ?_, fun hend => ⟨?_, ?_⟩⟩
  · have hpart : b <+: kept := hspec.isPrefix b hb
    refine ⟨hpart, hspec.eq_take hb, fun n hn hlong => ⟨?_, hpart.length_le⟩⟩
    have hreach := hspec.min_le_length hb hn
    rwa [Nat.min_eq_left (Nat.le_of_lt hlong)] at hreach
  · rw [hend] at hspec
    exact hspec.exists_ok
  · rintro ⟨f, hf⟩
    obtain ⟨hlt, hf | ⟨-, -, hnone⟩⟩ := hspec.error f hf
    · rw [hend] at hf
      cases hf
    · exact ⟨hlt, hnone⟩
  · rintro ⟨hlt, hnone⟩
    exact exists_receive_eq_error growth hlimit hend hlt hnone

/-- A backend that falls silent within the body it has declared. -/
def halting : Inlet :=
  [.data (Utf8.encode "HTTP/1.1 200 OK\r\nContent-Length: 3\r\n\r\na".toList), .silence, .silence]

/-- What came before the silence is kept. -/
theorem receive_holds_halting :
    0 < 64 ∧ receive .doubling 64 halting = .ok halting.delivered := by
  refine ⟨by decide, ?_⟩
  obtain ⟨hok, -, hsilent⟩ := @receive_holds .doubling 64 (by decide) halting
  cases hr : receive .doubling 64 halting with
  | error f =>
    obtain ⟨-, hnone⟩ := (hsilent rfl).mp ⟨f, hr⟩
    have hhead : Framing.headEnd? halting.delivered = some 34 := by decide
    rw [hhead] at hnone
    cases hnone
  | ok b =>
    have hend : Framing.declaredEnd? (halting.delivered.take 64) = some 41 := by decide
    rw [(hok b hr).2.1 fun n hn => ?_]
    · rfl
    · rw [hend] at hn
      cases hn
      decide

/-- A backend that closes, within the limit and after no more than it declares, is read to its
end. -/
theorem receive_eq_ok (growth : Growth) {limit : Nat} (hlimit : 0 < limit) {inlet : Inlet}
    (hend : inlet.ending = .ended) (hle : inlet.delivered.length ≤ limit)
    (hbody : ∀ n, Framing.declaredEnd? inlet.delivered = some n → inlet.delivered.length ≤ n) :
    receive growth limit inlet = .ok inlet.delivered := by
  have hspec := receive_spec growth hlimit inlet
  rw [hend] at hspec
  obtain ⟨b, hb⟩ := hspec.exists_ok
  have hall := List.take_of_length_le hle
  rw [hb, hspec.eq_take hb fun n hn => ?_, hall]
  rw [hall] at hn ⊢
  exact hbody n hn

end Gateway.Proxy
