import Mathlib.Tactic

namespace Vtb.Library

/-- A codec stores each record in the same positive number of bytes. -/
structure RecordCodec (Record Byte : Type*) where
  size : Nat
  positive : 0 < size
  encode : Record → List Byte
  decode : List Byte → Record
  length_encode : ∀ record, (encode record).length = size
  decode_encode : ∀ record, decode (encode record) = record

section
variable {Source Value : Type*} [DecidableEq Source]

/-- The values that carry the tag of one source, in their order. -/
def fromSource (source : Source) (tagged : List (Source × Value)) : List Value :=
  (tagged.filter fun entry => entry.1 = source).map Prod.snd

theorem fromSource_cons (source : Source) (entry : Source × Value) (rest : List (Source × Value)) :
    fromSource source (entry :: rest) =
      if entry.1 = source then entry.2 :: fromSource source rest else fromSource source rest := by
  by_cases own : entry.1 = source
  · simp [fromSource, own]
  · simp [fromSource, own]

/-- The list takes the values of every source, each once and in the order of its source. -/
def Interleaves (sources : Source → List Value) (merged : List Value) : Prop :=
  ∃ tagged : List (Source × Value), tagged.map Prod.snd = merged ∧
    ∀ source, fromSource source tagged = sources source

/-- The weight of one source in a tagged list. -/
theorem count_replicate_tags (source : Source) (weight : Value → Nat) (tagged : List (Source × Value)) :
    (tagged.flatMap fun entry => List.replicate (weight entry.2) entry.1).count source =
      ((fromSource source tagged).map weight).sum := by
  induction tagged with
  | nil => rfl
  | cons entry rest ih =>
      rw [List.flatMap_cons, List.count_append, ih, List.count_replicate, fromSource_cons]
      by_cases own : entry.1 = source
      · simp [own]
      · simp [own]

/-- Two tagged lists have the same total weight when each source has the same weight in both. -/
theorem sum_weights_eq {Other : Type*} {first : List (Source × Value)} {second : List (Source × Other)}
    (weight : Value → Nat) (otherWeight : Other → Nat)
    (same : ∀ source, ((fromSource source first).map weight).sum =
      ((fromSource source second).map otherWeight).sum) :
    (first.map fun entry => weight entry.2).sum =
      (second.map fun entry => otherWeight entry.2).sum := by
  have counts : (first.flatMap fun entry => List.replicate (weight entry.2) entry.1).Perm
      (second.flatMap fun entry => List.replicate (otherWeight entry.2) entry.1) := by
    rw [List.perm_iff_count]
    intro source
    rw [count_replicate_tags, count_replicate_tags, same]
  have lengths := counts.length_eq
  simpa [List.length_flatMap] using lengths

end

namespace RecordCodec
variable {Record Byte : Type*} (codec : RecordCodec Record Byte)

/-- Reads of exactly one record are decoded, and shorter reads are dropped. -/
def framed (reads : List (List Byte)) : List Record :=
  reads.filterMap fun chunk => if chunk.length = codec.size then some (codec.decode chunk) else none

variable {codec}

theorem framed_cons (chunk : List Byte) (rest : List (List Byte)) :
    codec.framed (chunk :: rest) =
      if chunk.length = codec.size then codec.decode chunk :: codec.framed rest
      else codec.framed rest := by
  by_cases full : chunk.length = codec.size
  · simp [framed, full]
  · simp [framed, full]

/-- Chunks of one record each are the encodings of the records of their stream. -/
theorem chunks_eq_encodings {chunks : List (List Byte)} {records : List Record}
    (full : ∀ chunk ∈ chunks, chunk.length = codec.size)
    (stream : chunks.flatten = records.flatMap codec.encode) : chunks = records.map codec.encode := by
  have positive := codec.positive
  induction chunks generalizing records with
  | nil =>
      cases records with
      | nil => rfl
      | cons record rest =>
          have lengths := congrArg List.length stream
          simp only [List.flatten_nil, List.flatMap_cons, List.length_append, codec.length_encode,
            List.length_nil] at lengths
          omega
  | cons chunk rest ih =>
      have whole := full chunk (by simp)
      cases records with
      | nil =>
          have lengths := congrArg List.length stream
          simp only [List.flatten_cons, List.flatMap_nil, List.length_append, List.length_nil,
            whole] at lengths
          omega
      | cons record more =>
          rw [List.flatten_cons, List.flatMap_cons] at stream
          obtain ⟨rfl, tail⟩ := List.append_inj stream (by rw [whole, codec.length_encode])
          rw [List.map_cons, ih (fun chunk member => full chunk (by simp [member])) tail]

/-- The dropped reads are the bytes that no record accounts for. -/
theorem full_of_sum_le {reads : List (List Byte)}
    (inside : ∀ chunk ∈ reads, chunk ≠ [] ∧ chunk.length ≤ codec.size)
    (balanced : (reads.map List.length).sum ≤ codec.size * (codec.framed reads).length) :
    ∀ chunk ∈ reads, chunk.length = codec.size := by
  have floor : ∀ rest : List (List Byte),
      codec.size * (codec.framed rest).length ≤ (rest.map List.length).sum := by
    intro rest
    induction rest with
    | nil => simp [framed]
    | cons chunk rest ih =>
        rw [framed_cons]
        split
        · next full =>
            simp only [List.length_cons, Nat.mul_succ, List.map_cons, List.sum_cons, full]
            omega
        · simp only [List.map_cons, List.sum_cons]
          omega
  induction reads with
  | nil => simp
  | cons chunk rest ih =>
      have present := List.length_pos_iff.mpr (inside chunk (by simp)).1
      have below := floor rest
      rw [framed_cons] at balanced
      split at balanced
      · next full =>
          simp only [List.length_cons, Nat.mul_succ, List.map_cons, List.sum_cons, full] at balanced
          have later := ih (fun other member => inside other (by simp [member])) (by omega)
          intro other member
          rcases List.mem_cons.mp member with rfl | earlier
          · exact full
          · exact later other earlier
      · simp only [List.map_cons, List.sum_cons] at balanced
        omega

section
variable {Source : Type*} [DecidableEq Source] {reads : List (Source × List Byte)}
  {written : Source → List Record}

/-- Reads of one record each frame an interleaving of the written records. -/
theorem interleaves_of_full (full : ∀ read ∈ reads, read.2.length = codec.size)
    (stream : ∀ source, (fromSource source reads).flatten = (written source).flatMap codec.encode) :
    Interleaves written (codec.framed (reads.map Prod.snd)) := by
  refine ⟨reads.map fun read => (read.1, codec.decode read.2), ?_, ?_⟩
  · clear stream
    induction reads with
    | nil => rfl
    | cons read rest ih =>
        have tail := ih fun other member => full other (by simp [member])
        rw [List.map_cons, List.map_cons, List.map_cons, framed_cons, if_pos (full read (by simp)), tail]
  · intro source
    have chunks : fromSource source reads = (written source).map codec.encode := by
      apply chunks_eq_encodings _ (stream source)
      intro chunk member
      obtain ⟨read, inside, rfl⟩ := List.mem_map.mp member
      exact full read (List.mem_filter.mp inside).1
    have decoded : fromSource source (reads.map fun read => (read.1, codec.decode read.2)) =
        (fromSource source reads).map codec.decode := by
      simp only [fromSource, List.filter_map, List.map_map]
      rfl
    rw [decoded, chunks, List.map_map]
    have inverse : codec.decode ∘ codec.encode = id := by
      funext record
      exact codec.decode_encode record
    rw [inverse, List.map_id]

/-- A reader that drops short reads and keeps no remainder delivers the written records of every source,
each once and in order, exactly when no read is short. -/
theorem interleaves_framed_iff
    (inside : ∀ read ∈ reads, read.2 ≠ [] ∧ read.2.length ≤ codec.size)
    (stream : ∀ source, (fromSource source reads).flatten = (written source).flatMap codec.encode) :
    Interleaves written (codec.framed (reads.map Prod.snd)) ↔
      ∀ read ∈ reads, read.2.length = codec.size := by
  constructor
  · intro ⟨tagged, merged, ordered⟩
    have weights : (reads.map fun read => read.2.length).sum =
        (tagged.map fun _ => codec.size).sum := by
      apply sum_weights_eq List.length (fun _ => codec.size)
      intro source
      rw [← List.length_flatten, stream source, ordered source, List.length_flatMap]
      congr 1
      apply List.map_congr_left
      intro record _
      exact codec.length_encode record
    have total : ((reads.map Prod.snd).map List.length).sum =
        codec.size * (codec.framed (reads.map Prod.snd)).length := by
      rw [← merged, List.map_map, List.length_map]
      rw [List.map_const', List.sum_replicate, smul_eq_mul, Nat.mul_comm] at weights
      exact weights
    have full := full_of_sum_le (by
      intro chunk member
      obtain ⟨read, listed, rfl⟩ := List.mem_map.mp member
      exact inside read listed) (le_of_eq total)
    intro read member
    exact full read.2 (List.mem_map_of_mem member)
  · intro full
    exact interleaves_of_full full stream

end

end RecordCodec

end Vtb.Library
