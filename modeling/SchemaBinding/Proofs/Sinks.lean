import SchemaBinding.Outline.Signature.Sink
import SchemaBinding.Proofs.Utf8

/-!
# What sinks take

A sink that takes something at a time takes octets up to its limit, however they are cut.  So what
it takes of several strings is what it takes of all of them in one piece.
-/

namespace SchemaBinding

open Text.Utf8 (encode)

namespace Sink

variable {Fault : Type} {sink : Sink Fault}

/-- How many octets of an offer the sink takes in the end, if the rest is offered again and again.
-/
def room (sink : Sink Fault) (offered : Nat) : Nat :=
  bounded (sink.limit.map (· - sink.taken.length)) offered

/-- Takes octets up to the limit, and fails if these are not all. -/
def accept (sink : Sink Fault) (octets : List UInt8) : Option (SinkFault Fault) × Sink Fault :=
  (if sink.room octets.length = octets.length then none else some sink.refusal,
    { sink with taken := sink.taken ++ octets.take (sink.room octets.length) })

/-- Takes octets up to the limit, and flushes the sink if these are all. -/
def acceptAndFlush (sink : Sink Fault) (octets : List UInt8) :
    Option (SinkFault Fault) × Sink Fault :=
  match sink.accept octets with
  | (none, sink) => sink.flush.map (Option.map .own) id
  | (some fault, sink) => (some fault, sink)

/-! ## Bounds -/

theorem bounded_le (bound : Option Nat) (count : Nat) : bounded bound count ≤ count := by
  cases bound with
  | none => exact Nat.le_refl _
  | some bound => exact Nat.min_le_right _ _

theorem capacity_le_room (sink : Sink Fault) (offered : Nat) :
    sink.capacity offered ≤ sink.room offered :=
  bounded_le _ _

theorem room_le (sink : Sink Fault) (offered : Nat) : sink.room offered ≤ offered :=
  bounded_le _ _

/-- If the sink takes nothing, this is because of the limit. -/
theorem room_eq_zero_of_capacity
    (takesSome : sink.chunk ≠ some 0)
    {offered : Nat}
    (full : sink.capacity offered = 0) :
    sink.room offered = 0 := by
  unfold capacity at full
  cases isChunk : sink.chunk with
  | none => rwa [isChunk] at full
  | some chunk =>
      have positive : chunk ≠ 0 := fun isZero => takesSome (isChunk.trans (congrArg some isZero))
      rw [isChunk] at full
      have least : min chunk (sink.room offered) = 0 := full
      omega

/-- A part of what the sink has room for can be taken. -/
theorem room_eq_of_le_room
    {count offered : Nat}
    (enough : count ≤ sink.room offered) :
    sink.room count = count := by
  unfold room at enough ⊢
  cases isLimit : sink.limit with
  | none => rfl
  | some limit =>
      rw [isLimit] at enough
      have below : count ≤ min (limit - sink.taken.length) offered := enough
      show min (limit - sink.taken.length) count = count
      omega

/-- Behind what was taken there is room for what is left of the limit. -/
theorem room_add
    {octets : List UInt8}
    (all : sink.room octets.length = octets.length)
    (further : Nat) :
    sink.room (octets.length + further) =
      octets.length + { sink with taken := sink.taken ++ octets }.room further := by
  unfold room at all ⊢
  cases isLimit : sink.limit with
  | none => rfl
  | some limit =>
      rw [isLimit] at all
      have enough : min (limit - sink.taken.length) octets.length = octets.length := all
      show min (limit - sink.taken.length) (octets.length + further) =
        octets.length + min (limit - (sink.taken ++ octets).length) further
      rw [List.length_append]
      omega

/-- There is no more room for a longer offer if there is not enough for a shorter one. -/
theorem room_add_of_cut
    {offered : Nat}
    (cut : sink.room offered ≠ offered)
    (further : Nat) :
    sink.room (offered + further) = sink.room offered := by
  unfold room at cut ⊢
  cases isLimit : sink.limit with
  | none => exact absurd (by rw [isLimit]; rfl) cut
  | some limit =>
      rw [isLimit] at cut
      have fewer : min (limit - sink.taken.length) offered ≠ offered := cut
      show min (limit - sink.taken.length) (offered + further) =
        min (limit - sink.taken.length) offered
      omega

/-! ## Accepting octets -/

theorem accept_of_all
    {octets : List UInt8}
    (all : sink.room octets.length = octets.length) :
    sink.accept octets = (none, { sink with taken := sink.taken ++ octets }) := by
  rw [accept, if_pos all, all, List.take_length]

theorem accept_of_cut
    {octets : List UInt8}
    (cut : sink.room octets.length ≠ octets.length) :
    sink.accept octets = (some sink.refusal,
      { sink with taken := sink.taken ++ octets.take (sink.room octets.length) }) := by
  rw [accept, if_neg cut]

@[simp] theorem accept_nil (sink : Sink Fault) : sink.accept [] = (none, sink) := by
  rw [accept_of_all (Nat.le_zero.1 (sink.room_le 0)), List.append_nil]

/-- Octets in two pieces are accepted like the octets in one. -/
theorem accept_append
    (sink : Sink Fault)
    (left right : List UInt8) :
    sink.accept (left ++ right) =
      match sink.accept left with
      | (none, sink) => sink.accept right
      | (some fault, sink) => (some fault, sink) := by
  by_cases all : sink.room left.length = left.length
  · rw [accept_of_all all]
    have further := room_add all right.length
    simp only [accept, List.length_append, further, Nat.add_left_cancel_iff,
      List.take_length_add_append, List.append_assoc]
    rfl
  · have fewer := sink.room_le left.length
    have same := room_add_of_cut all right.length
    have cut : sink.room (left ++ right).length ≠ (left ++ right).length := by
      rw [List.length_append, same]
      omega
    rw [accept_of_cut all, accept_of_cut cut, List.length_append, same,
      List.take_append_of_le_length fewer]

/-- A sink that is full accepts nothing. -/
theorem accept_of_full
    (takesSome : sink.chunk ≠ some 0)
    {octets : List UInt8}
    (something : octets ≠ [])
    (full : sink.capacity octets.length = 0) :
    sink.accept octets = (some sink.refusal, sink) := by
  have noRoom := room_eq_zero_of_capacity takesSome full
  have cut : sink.room octets.length ≠ octets.length := by
    rw [noRoom]
    exact Nat.ne_of_lt (List.length_pos_iff.2 something)
  rw [accept_of_cut cut, noRoom, List.take_zero, List.append_nil]

/-- Octets are accepted alike whether or not the sink first takes a part that it can take at a time.
-/
theorem accept_eq_of_partial
    {octets : List UInt8}
    {count : Nat}
    (enough : count ≤ sink.capacity octets.length) :
    sink.accept octets =
      { sink with taken := sink.taken ++ octets.take count }.accept (octets.drop count) := by
  have withinRoom := Nat.le_trans enough (sink.capacity_le_room octets.length)
  have all : sink.room (octets.take count).length = (octets.take count).length := by
    rw [List.length_take_of_le (Nat.le_trans withinRoom (sink.room_le _))]
    exact room_eq_of_le_room withinRoom
  have split := sink.accept_append (octets.take count) (octets.drop count)
  rwa [List.take_append_drop, accept_of_all all] at split

/-- Offering octets again and again comes to accepting them. -/
theorem write_eq_accept
    (takesSome : sink.chunk ≠ some 0)
    (octets : List UInt8) :
    sink.write octets = sink.accept octets := by
  fun_induction Sink.write sink octets with
  | case1 sink => rw [accept_nil]
  | case2 sink octets something _ full => rw [accept_of_full takesSome something full]
  | case3 sink octets something count positive inductionHypothesis =>
      rw [inductionHypothesis takesSome, ← accept_eq_of_partial (Nat.le_refl _)]

theorem writeAll_eq_accept
    (takesSome : sink.chunk ≠ some 0)
    (pieces : List String) :
    sink.writeAll pieces = sink.accept (pieces.flatMap encode) := by
  induction pieces generalizing sink with
  | nil => rw [writeAll, List.flatMap_nil, accept_nil]
  | cons piece rest inductionHypothesis =>
      rw [writeAll, write_eq_accept takesSome, List.flatMap_cons, accept_append]
      have sameChunk : (sink.accept (encode piece)).2.chunk = sink.chunk := rfl
      generalize sink.accept (encode piece) = accepted at sameChunk ⊢
      obtain ⟨_ | fault, after⟩ := accepted
      · exact inductionHypothesis (sameChunk ▸ takesSome)
      · rfl

end Sink

/-- A signature is written to a sink as the octets of its text, and the sink is flushed if it
accepts all of them. -/
theorem Outline.writeSignature_eq
    {Fault : Type}
    {sink : Sink Fault}
    (takesSome : sink.chunk ≠ some 0)
    (outline : Outline)
    (options : SignatureOptions) :
    outline.writeSignature options sink =
      sink.acceptAndFlush (encode (outline.signature options)) := by
  rw [writeSignature, Sink.writeAll_eq_accept takesSome, signature, Text.Utf8.encode_join]
  rfl

end SchemaBinding
