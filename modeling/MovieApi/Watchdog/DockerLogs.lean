import Mathlib

/-!
# Docker's log frames

`demux_logs`: the logs of a container come in frames, each a header of eight bytes and
a payload; the logs of a terminal come as they are.
-/

namespace MovieApi.Watchdog

abbrev Bytes := List UInt8

/-! ## Text -/

/-- What a byte at the start of a longer UTF-8 sequence asks for: how many bytes follow,
and between which two the first of them lies. -/
def followers (lead : UInt8) : Option (Nat × UInt8 × UInt8) :=
  if 0xc2 ≤ lead ∧ lead ≤ 0xdf then some (1, 0x80, 0xbf)
  else if lead = 0xe0 then some (2, 0xa0, 0xbf)
  else if lead = 0xed then some (2, 0x80, 0x9f)
  else if 0xe1 ≤ lead ∧ lead ≤ 0xef then some (2, 0x80, 0xbf)
  else if lead = 0xf0 then some (3, 0x90, 0xbf)
  else if 0xf1 ≤ lead ∧ lead ≤ 0xf3 then some (3, 0x80, 0xbf)
  else if lead = 0xf4 then some (3, 0x80, 0x8f)
  else none

/-- The bytes that follow as they should, at most `n` of them. -/
def followed : Nat → UInt8 → UInt8 → Bytes → Bytes
  | n + 1, lowest, highest, byte :: bytes =>
      if lowest ≤ byte ∧ byte ≤ highest then byte :: followed n 0x80 0xbf bytes else []
  | _, _, _, _ => []

def codePoint (lead : UInt8) (bytes : Bytes) : Nat :=
  bytes.foldl (fun n byte => 64 * n + byte.toNat % 64) (lead.toNat % 2 ^ (6 - bytes.length))

/-- The first character, and how many bytes it takes; a sequence that breaks off is one
replacement character. -/
def decodeChar (lead : UInt8) (bytes : Bytes) : Char × Nat :=
  if lead < 0x80 then (Char.ofNat lead.toNat, 1)
  else match followers lead with
    | none => ('\ufffd', 1)
    | some (n, lowest, highest) =>
        let tail := followed n lowest highest bytes
        if tail.length = n then (Char.ofNat (codePoint lead tail), 1 + n)
        else ('\ufffd', 1 + tail.length)

def decodeChars : Nat → Bytes → List Char
  | n + 1, lead :: bytes =>
      (decodeChar lead bytes).1 ::
        decodeChars n ((lead :: bytes).drop (decodeChar lead bytes).2)
  | _, _ => []

/-- `bytes.decode(errors="replace")`; every character takes a byte at least. -/
def decodeReplace (bytes : Bytes) : String := String.ofList (decodeChars bytes.length bytes)

example : decodeReplace [0x61, 0xc3, 0xa9, 0xe1, 0x9e, 0x80, 0xe1, 0x9e, 0x62, 0xff] =
    "aéក\ufffdb\ufffd" := by decide

/-! ## Frames -/

/-- `int.from_bytes(…, "big")`. -/
def bigEndian (bytes : Bytes) : Nat := bytes.foldl (fun n byte => 256 * n + byte.toNat) 0

/-- `raw[start : start + n]`. -/
def slice (raw : Bytes) (start n : Nat) : Bytes := (raw.drop start).take n

/-- A frame header starts at `i`. -/
def headerAt (raw : Bytes) (i : Nat) : Bool :=
  decide (i + 8 ≤ raw.length) && decide (raw[i]? ∈ [some 0, some 1, some 2]) &&
    decide (slice raw (i + 1) 3 = [0, 0, 0])

/-- The variables of the loop. -/
structure Cursor where
  i : Nat
  out : List Bytes
deriving DecidableEq, Repr

/-- One round of the loop, `none` when it is over. -/
def Cursor.next (raw : Bytes) (c : Cursor) : Option Cursor :=
  if headerAt raw c.i then
    let size := bigEndian (slice raw (c.i + 4) 4)
    some ⟨c.i + (8 + size), c.out ++ [slice raw (c.i + 8) size]⟩
  else none

theorem length_of_headerAt {raw : Bytes} {i : Nat} (h : headerAt raw i = true) :
    i + 8 ≤ raw.length := by
  unfold headerAt at h
  simp only [Bool.and_eq_true, decide_eq_true_eq] at h
  exact h.1.1

theorem Cursor.next_le {raw : Bytes} {c c' : Cursor} (h : c.next raw = some c') :
    c.i + 8 ≤ raw.length ∧ c.i + 8 ≤ c'.i := by
  unfold next at h
  split at h
  · next hheader =>
      obtain rfl := Option.some.inj h
      have hlength := length_of_headerAt hheader
      refine ⟨hlength, ?_⟩
      show c.i + 8 ≤ c.i + (8 + _)
      omega
  · cases h

/-- The loop. -/
def Cursor.follow (raw : Bytes) (c : Cursor) : Cursor :=
  match _h : c.next raw with
  | none => c
  | some c' => c'.follow raw
termination_by raw.length - c.i
decreasing_by
  obtain ⟨hlength, hle⟩ := next_le _h
  omega

def Cursor.data (raw : Bytes) (c : Cursor) : Bytes := if c.i = 0 then raw else c.out.flatten

def Cursor.start : Cursor := ⟨0, []⟩

def demuxLogs (raw : Bytes) : String := decodeReplace ((Cursor.start.follow raw).data raw)

/-! ## The loop, round by round -/

variable {raw : Bytes} {c c' : Cursor}

theorem Cursor.follow_of_none (h : c.next raw = none) : c.follow raw = c := by
  unfold follow
  split
  · rfl
  · next c' hsome =>
      rw [h] at hsome
      cases hsome

theorem Cursor.follow_of_some (h : c.next raw = some c') : c.follow raw = c'.follow raw := by
  rw [follow]
  split
  · next hnone =>
      rw [h] at hnone
      cases hnone
  · next c'' hsome =>
      rw [h] at hsome
      obtain rfl := Option.some.inj hsome
      rfl

/-- The cursor after `n` rounds. -/
def Cursor.rounds (raw : Bytes) : Nat → Cursor → Option Cursor
  | 0, c => some c
  | n + 1, c => (c.next raw).bind (rounds raw n)

/-- A round moves the cursor by a header at least, so the rounds come to an end. -/
theorem Cursor.exists_rounds (raw : Bytes) (c : Cursor) :
    ∃ n last, c.rounds raw n = some last ∧ last.next raw = none ∧ c.follow raw = last ∧
      (n ≠ 0 → c.i + 8 * n ≤ raw.length) := by
  induction c using Cursor.follow.induct raw with
  | case1 c h => exact ⟨0, c, rfl, h, follow_of_none h, fun hn => absurd rfl hn⟩
  | case2 c c' h ih =>
      obtain ⟨n, last, hrounds, hover, hfollow, hbound⟩ := ih
      obtain ⟨hlength, hle⟩ := next_le h
      refine ⟨n + 1, last, ?_, hover, (follow_of_some h).trans hfollow, fun _ => ?_⟩
      · rw [rounds, h, Option.bind_some, hrounds]
      · by_cases hn : n = 0
        · omega
        · have hrest := hbound hn
          omega

/-! ## What the loop reads of encoded frames -/

/-- A frame as the Docker daemon sends it. -/
structure Frame where
  stream : Fin 3
  payload : Bytes
  short : payload.length < 2 ^ 32

/-- `size.to_bytes(4, "big")`. -/
def sizeBytes (size : Nat) : Bytes :=
  [UInt8.ofNat (size / 2 ^ 24), UInt8.ofNat (size / 2 ^ 16), UInt8.ofNat (size / 2 ^ 8),
    UInt8.ofNat size]

def Frame.encode (f : Frame) : Bytes :=
  UInt8.ofNat f.stream :: 0 :: 0 :: 0 :: (sizeBytes f.payload.length ++ f.payload)

theorem bigEndian_sizeBytes {size : Nat} (h : size < 2 ^ 32) :
    bigEndian (sizeBytes size) = size := by
  simp only [bigEndian, sizeBytes, List.foldl_cons, List.foldl_nil, UInt8.toNat_ofNat']
  omega

theorem slice_append (before rest : Bytes) (k n : Nat) :
    slice (before ++ rest) (before.length + k) n = slice rest k n := by
  have hbefore : before.drop (before.length + k) = [] := List.drop_eq_nil_of_le (by omega)
  rw [slice, slice, List.drop_append, hbefore, List.nil_append, Nat.add_sub_cancel_left]

theorem headerAt_encode (before rest : Bytes) (f : Frame) :
    headerAt (before ++ (f.encode ++ rest)) before.length = true := by
  have hstream : UInt8.ofNat f.stream ∈ [(0 : UInt8), 1, 2] := by
    have hall : ∀ stream : Fin 3, UInt8.ofNat stream ∈ [(0 : UInt8), 1, 2] := by decide
    exact hall f.stream
  have hfirst : (before ++ (f.encode ++ rest))[before.length]? = some (UInt8.ofNat f.stream) := by
    rw [List.getElem?_append_right (le_refl _), Nat.sub_self]
    rfl
  unfold headerAt
  rw [slice_append, hfirst]
  simp only [Bool.and_eq_true, decide_eq_true_eq]
  refine ⟨⟨?_, ?_⟩, rfl⟩
  · simp only [List.length_append, Frame.encode, sizeBytes, List.length_cons, List.length_nil]
    omega
  · simpa using hstream

theorem next_encode (before rest : Bytes) (out : List Bytes) (f : Frame) :
    Cursor.next (before ++ (f.encode ++ rest)) ⟨before.length, out⟩ =
      some ⟨before.length + f.encode.length, out ++ [f.payload]⟩ := by
  have hsize : slice (f.encode ++ rest) 4 4 = sizeBytes f.payload.length := rfl
  have hpayload : slice (f.encode ++ rest) 8 f.payload.length = f.payload := by
    simp [slice, Frame.encode, sizeBytes]
  unfold Cursor.next
  rw [if_pos (headerAt_encode before rest f)]
  simp only [slice_append, hsize, bigEndian_sizeBytes f.short, hpayload]
  have hlength : f.encode.length = 8 + f.payload.length := by
    simp only [Frame.encode, sizeBytes, List.length_cons, List.length_append, List.length_nil]
    omega
  rw [hlength]

theorem next_end (raw : Bytes) (out : List Bytes) : Cursor.next raw ⟨raw.length, out⟩ = none := by
  unfold Cursor.next
  rw [if_neg]
  intro h
  have hlength := length_of_headerAt h
  simp at hlength

/-- The loop takes one frame after the other. -/
theorem follow_frames (before : Bytes) (out : List Bytes) (frames : List Frame) :
    Cursor.follow (before ++ frames.flatMap Frame.encode) ⟨before.length, out⟩ =
      ⟨before.length + (frames.flatMap Frame.encode).length, out ++ frames.map Frame.payload⟩ := by
  induction frames generalizing before out with
  | nil =>
      rw [List.flatMap_nil, List.append_nil, List.map_nil, List.append_nil]
      exact Cursor.follow_of_none (next_end before out)
  | cons f frames ih =>
      rw [List.flatMap_cons, Cursor.follow_of_some (next_encode before _ out f)]
      have hrest := ih (before ++ f.encode) (out ++ [f.payload])
      rw [List.append_assoc, List.length_append] at hrest
      rw [hrest]
      simp [Nat.add_assoc]

/-- The logs of any frames are their payloads, those of a terminal are left as they are,
and in any bytes the loop ends after one round for every eight of them at most. -/
theorem demuxLogs_inverts :
    (∀ frames : List Frame,
      demuxLogs (frames.flatMap Frame.encode) = decodeReplace (frames.flatMap Frame.payload)) ∧
    (∀ raw : Bytes, headerAt raw 0 = false → demuxLogs raw = decodeReplace raw) ∧
    ∀ raw : Bytes, ∃ n ≤ raw.length / 8, ∃ last, Cursor.start.rounds raw n = some last ∧
      last.next raw = none ∧ demuxLogs raw = decodeReplace (last.data raw) := by
  refine ⟨fun frames => ?_, fun raw hraw => ?_, fun raw => ?_⟩
  · have hfollow := follow_frames [] [] frames
    rw [List.nil_append, List.nil_append] at hfollow
    have hstart : Cursor.start.follow (frames.flatMap Frame.encode) =
        ⟨(frames.flatMap Frame.encode).length, frames.map Frame.payload⟩ := by
      rw [Cursor.start]
      simpa using hfollow
    rw [demuxLogs, hstart, Cursor.data]
    by_cases hempty : frames = []
    · simp [hempty]
    · have hlength : (frames.flatMap Frame.encode).length ≠ 0 := by
        obtain ⟨f, rest, rfl⟩ := List.exists_cons_of_ne_nil hempty
        simp [Frame.encode]
      rw [if_neg hlength, List.flatMap_def (f := Frame.payload)]
  · have hover : Cursor.start.next raw = none := by
      rw [Cursor.next, Cursor.start, hraw, if_neg Bool.false_ne_true]
    rw [demuxLogs, Cursor.follow_of_none hover]
    rfl
  · obtain ⟨n, last, hrounds, hover, hfollow, hbound⟩ := Cursor.start.exists_rounds raw
    refine ⟨n, ?_, last, hrounds, hover, by rw [demuxLogs, hfollow]⟩
    by_cases hn : n = 0
    · omega
    · have hlength := hbound hn
      simp only [Cursor.start] at hlength
      omega

end MovieApi.Watchdog
