import Mathlib.Data.List.Basic
import Mathlib.Data.List.Flatten
import ModbusGateway.Library.Execution

/-!
# Frames on a byte stream

A byte stream carries frames, but it is read and written in blocks.  A reader that
takes every block for a frame gets the frames only if the blocks are the frames.  A
writer that hands a frame to the system once, and does not look at how much of it has
been taken, has written the frames only if all of each has been taken.

## Main definitions

* `Cut blocks frames` — non-empty blocks into which the stream of the frames is cut.
* `Write`, `stream` — writes that have completed, and the bytes they have put on the stream.
* `Framed` — some bytes are a concatenation of complete frames, and the start of another.
* `Whole` — the stream consists of the frames that have been written.
* `Wire` — a party and the writes of its runs.

## Main results

* `Cut.filter_eq_iff` — **the blocks that pass a test all frames pass are the frames only
  if the blocks are the frames.**
* `Cut.length_lt` — the blocks of a frame that is cut are shorter than the frame.
* `whole_iff` — **only writes that have been taken altogether leave whole frames.**
* `Wire.writesFrames` — the same of the runs of a party.
-/

namespace Framing

variable {α : Type*}

/-! ### Reading -/

/-- Non-empty blocks into which the stream of the frames is cut. -/
structure Cut (blocks frames : List (List α)) : Prop where
  nonempty : ∀ block ∈ blocks, block ≠ []
  flatten : blocks.flatten = frames.flatten

/-- A part of some non-empty blocks that has all their bytes has all of them. -/
theorem filter_eq_self_of_length {p : List α → Bool} {blocks : List (List α)}
    (hne : ∀ block ∈ blocks, block ≠ [])
    (hlength : blocks.flatten.length ≤ (blocks.filter p).flatten.length) :
    blocks.filter p = blocks := by
  induction blocks with
  | nil => rfl
  | cons block blocks ih =>
    have hpos : 0 < block.length := List.length_pos_iff.mpr (hne block List.mem_cons_self)
    have hrest := fun b hb => hne b (List.mem_cons_of_mem block hb)
    have hle : (blocks.filter p).flatten.length ≤ blocks.flatten.length :=
      (List.filter_sublist (p := p)).flatten.length_le
    by_cases hp : p block = true
    · rw [List.filter_cons_of_pos hp] at hlength ⊢
      simp only [List.flatten_cons, List.length_append] at hlength
      rw [ih hrest (by omega)]
    · rw [List.filter_cons_of_neg hp] at hlength
      simp only [List.flatten_cons, List.length_append] at hlength
      omega

/-- **The blocks that pass a test** which all frames pass are the frames exactly if all blocks
are. -/
theorem Cut.filter_eq_iff {p : List α → Bool} {blocks frames : List (List α)}
    (h : Cut blocks frames) (hframes : ∀ frame ∈ frames, p frame = true) :
    blocks.filter p = frames ↔ blocks = frames := by
  constructor
  · intro hfilter
    rw [← hfilter, filter_eq_self_of_length h.nonempty]
    exact Nat.le_of_eq (by rw [hfilter, h.flatten])
  · rintro rfl
    exact List.filter_eq_self.mpr hframes

/-- **The blocks of a frame that is cut** are shorter than the frame. -/
theorem Cut.length_lt {blocks : List (List α)} {frame : List α} (h : Cut blocks [frame])
    (hcut : blocks ≠ [frame]) : ∀ block ∈ blocks, block.length < frame.length := by
  intro block hblock
  obtain ⟨before, after, rfl⟩ := List.append_of_mem hblock
  have hflatten : before.flatten ++ (block ++ after.flatten) = frame := by
    have := h.flatten
    simpa using this
  -- the other blocks, if there are any, have some of the bytes
  have hpos : 0 < before.flatten.length + after.flatten.length := by
    by_contra hzero
    have hnone : before.flatten = [] ∧ after.flatten = [] :=
      ⟨List.length_eq_zero_iff.mp (by omega), List.length_eq_zero_iff.mp (by omega)⟩
    rw [List.flatten_eq_nil_iff, List.flatten_eq_nil_iff] at hnone
    have hbefore : before = [] := List.eq_nil_iff_forall_not_mem.mpr fun b hb =>
      h.nonempty b (List.mem_append_left _ hb) (hnone.1 b hb)
    have hafter : after = [] := List.eq_nil_iff_forall_not_mem.mpr fun b hb =>
      h.nonempty b (List.mem_append_right _ (List.mem_cons_of_mem _ hb)) (hnone.2 b hb)
    subst hbefore hafter
    refine hcut ?_
    simpa using hflatten
  rw [← hflatten]
  simp only [List.length_append]
  omega

/-! ### Writing -/

/-- A write that has completed: the frame it was given, and how many bytes the system has
taken of it. -/
structure Write (α : Type*) where
  frame : List α
  size : ℕ
  deriving DecidableEq, Repr

/-- The bytes of a frame that have been taken. -/
def Write.bytes (w : Write α) : List α := w.frame.take w.size

/-- The frame has been taken altogether. -/
def Write.whole (w : Write α) : Bool := decide (w.size = w.frame.length)

/-- The bytes that some writes have put on the stream. -/
def stream (writes : List (Write α)) : List α := writes.flatMap Write.bytes

/-- Some bytes are a concatenation of complete frames, possibly followed by a prefix of one that
is still being written. -/
def Framed (frames pending : List (List α)) (bytes : List α) : Prop :=
  ∃ complete rest, complete ⊆ frames ∧ bytes = complete.flatten ++ rest ∧
    (rest = [] ∨ ∃ frame ∈ pending, rest <+: frame)

/-- A part of a frame is no concatenation of frames. -/
theorem not_framed_of_lt {frames : List (List α)} {bytes : List α} (hne : bytes ≠ [])
    (hlt : ∀ frame ∈ frames, bytes.length < frame.length) : ¬ Framed frames [] bytes := by
  rintro ⟨complete, rest, hcomplete, rfl, rfl | ⟨frame, hframe, -⟩⟩
  · cases complete with
    | nil => exact hne rfl
    | cons frame complete =>
      have hlength := hlt frame (hcomplete List.mem_cons_self)
      simp only [List.flatten_cons, List.append_nil, List.length_append] at hlength
      omega
  · cases hframe

/-- The stream consists of the frames of the writes that have completed, possibly followed by a
prefix of one that is still being written. -/
def Whole (writes : List (Write α)) (pending : List (List α)) : Prop :=
  ∃ rest, stream writes = (writes.map Write.frame).flatten ++ rest ∧
    (rest = [] ∨ ∃ frame ∈ pending, rest <+: frame)

/-- Then it is a concatenation of complete frames. -/
theorem Whole.framed {writes : List (Write α)} {frames pending : List (List α)}
    (h : Whole writes pending) (hframes : ∀ w ∈ writes, w.frame ∈ frames) :
    Framed frames pending (stream writes) := by
  obtain ⟨rest, hstream, hrest⟩ := h
  refine ⟨writes.map Write.frame, rest, fun frame hframe => ?_, hstream, hrest⟩
  obtain ⟨w, hw, rfl⟩ := List.mem_map.mp hframe
  exact hframes w hw

theorem stream_of_whole {writes : List (Write α)} (h : ∀ w ∈ writes, w.whole = true) :
    stream writes = (writes.map Write.frame).flatten := by
  induction writes with
  | nil => rfl
  | cons w writes ih =>
    have hw : w.bytes = w.frame := by
      rw [Write.bytes, of_decide_eq_true (h w List.mem_cons_self), List.take_length]
    rw [List.map_cons, List.flatten_cons, ← ih fun w' hw' => h w' (List.mem_cons_of_mem _ hw'),
      ← hw]
    rfl

/-- The stream is never longer than the frames, and shorter as soon as one has not been taken
altogether. -/
theorem length_stream (writes : List (Write α)) :
    (stream writes).length ≤ ((writes.map Write.frame).flatten).length ∧
    ((stream writes).length = ((writes.map Write.frame).flatten).length →
      ∀ w ∈ writes, w.size ≤ w.frame.length → w.whole = true) := by
  induction writes with
  | nil => exact ⟨Nat.le_refl 0, fun _ w hw => by cases hw⟩
  | cons w writes ih =>
    obtain ⟨hle, heq⟩ := ih
    have hbytes : w.bytes.length = min w.size w.frame.length := List.length_take
    have hsplit : (stream (w :: writes)).length = w.bytes.length + (stream writes).length :=
      List.length_append
    rw [hsplit, List.map_cons, List.flatten_cons, List.length_append]
    refine ⟨by omega, fun hlength w' hw' hsize => ?_⟩
    rcases List.mem_cons.mp hw' with rfl | hw'
    · exact decide_eq_true (by omega)
    · exact heq (by omega) w' hw' hsize

/-- **The stream consists of whole frames** exactly if all of each frame has been taken. -/
theorem whole_iff {writes : List (Write α)} (pending : List (List α))
    (hsize : ∀ w ∈ writes, w.size ≤ w.frame.length) :
    Whole writes pending ↔ ∀ w ∈ writes, w.whole = true := by
  constructor
  · rintro ⟨rest, hstream, -⟩ w hw
    obtain ⟨hle, heq⟩ := length_stream writes
    have hlength := congrArg List.length hstream
    rw [List.length_append] at hlength
    exact heq (by omega) w hw (hsize w hw)
  · intro hwhole
    exact ⟨[], by rw [stream_of_whole hwhole, List.append_nil], Or.inl rfl⟩

/-! ### The writes of a run -/

open Execution

/-- A party, and the writes that have completed in its run. -/
structure Wire (σ α : Type*) where
  party : σ
  writes : List (Write α)

namespace Wire

variable {σ ε : Type*}

/-- A party that has written nothing. -/
def new (s : σ) : Wire σ α := ⟨s, []⟩

/-- The step function of a party whose events complete the given writes. -/
def step (step : σ → ε → Option σ) (written : σ → ε → Option (Write α)) (w : Wire σ α) (e : ε) :
    Option (Wire σ α) :=
  (step w.party e).map fun s => ⟨s, w.writes ++ (written w.party e).toList⟩

/-- A write that completes has taken at least one byte, and no more than there are. -/
def transfers (written : σ → ε → Option (Write α)) (w : Wire σ α) (e : ε) : Bool :=
  (written w.party e).all fun write => decide (0 < write.size ∧ write.size ≤ write.frame.length)

/-- A write that completes has taken all of its frame. -/
def takesAll (written : σ → ε → Option (Write α)) (w : Wire σ α) (e : ε) : Bool :=
  (written w.party e).all Write.whole

variable {step : σ → ε → Option σ} {written : σ → ε → Option (Write α)} {I : σ → Prop}

/-- A condition on the writes of each step is a condition on the writes of the run. -/
theorem along_iff {good : Write α → Bool} (hstep : ∀ s e s', I s → step s e = some s' → I s')
    {es : List ε} {s : σ} {t : Wire σ α} (hs : I s)
    (hrun : exec (Wire.step step written) (new s) es = some t) :
    along (Wire.step step written) (fun w e => (written w.party e).all good) (new s) es = true ↔
      ∀ w ∈ t.writes, good w = true := by
  have hwire : ∀ (w : Wire σ α) (e : ε) (w' : Wire σ α), I w.party →
      Wire.step step written w e = some w' → I w'.party := by
    intro w e w' hw h
    obtain ⟨s', hs', rfl⟩ := Option.map_eq_some_iff.mp h
    exact hstep w.party e s' hw hs'
  have hadd : ∀ (w : Wire σ α) (e : ε) (w' : Wire σ α), I w.party →
      Wire.step step written w e = some w' → ∃ new, w'.writes = w.writes ++ new ∧
        ((written w.party e).all good = true ↔ ∀ write ∈ new, good write = true) := by
    intro w e w' _ h
    obtain ⟨s', -, rfl⟩ := Option.map_eq_some_iff.mp h
    exact ⟨_, rfl, by cases written w.party e <;> simp⟩
  obtain ⟨new, hnew, hiff⟩ := along_iff_forall hwire hadd es _ t hs hrun
  rw [hnew]
  exact hiff

/-- In every run from `s` in which the system takes some of what it is given, the stream is a
concatenation of complete frames. -/
def KeepsFrames (step : σ → ε → Option σ) (written : σ → ε → Option (Write α))
    (frames pending : σ → List (List α)) (s : σ) : Prop :=
  ∀ es t, exec (Wire.step step written) (new s) es = some t →
    along (Wire.step step written) (transfers written) (new s) es = true →
    Framed (frames t.party) (pending t.party) (stream t.writes)

/-- A run that has put a part of a frame on the stream has not kept the frames. -/
theorem not_keepsFrames [DecidableEq α] {frames pending : σ → List (List α)} {s : σ} (es : List ε)
    (hpart : (exec (Wire.step step written) (new s) es).any (fun t => decide
      (stream t.writes ≠ [] ∧ pending t.party = [] ∧
        ∀ frame ∈ frames t.party, (stream t.writes).length < frame.length)) = true)
    (htransfers : along (Wire.step step written) (transfers written) (new s) es = true) :
    ¬ KeepsFrames step written frames pending s := by
  intro h
  obtain ⟨t, hrun, hpart⟩ := (Option.any_eq_true _ _).mp hpart
  obtain ⟨hne, hpending, hlt⟩ := of_decide_eq_true hpart
  have hframed := h es t hrun htransfers
  rw [hpending] at hframed
  exact not_framed_of_lt hne hlt hframed

/-- In every run from `s` in which the system takes some of what it is given, and all of it, the
stream is a concatenation of complete frames; and it consists of the frames of its writes only if
the system takes all. -/
def WritesFrames (step : σ → ε → Option σ) (written : σ → ε → Option (Write α))
    (frames pending : σ → List (List α)) (s : σ) : Prop :=
  ∀ es t, exec (Wire.step step written) (new s) es = some t →
    along (Wire.step step written) (transfers written) (new s) es = true →
    (along (Wire.step step written) (takesAll written) (new s) es = true →
      Framed (frames t.party) (pending t.party) (stream t.writes)) ∧
    (Whole t.writes (pending t.party) ↔
      along (Wire.step step written) (takesAll written) (new s) es = true)

/-- **The stream that a party writes** is a concatenation of frames of its own exactly if the
system takes all that it is given. -/
theorem writesFrames {frames : σ → List (List α)} (pending : σ → List (List α))
    (hstep : ∀ s e s', I s → step s e = some s' → I s')
    (hframes : ∀ s e s', I s → step s e = some s' → frames s ⊆ frames s' ∧
      ∀ w, written s e = some w → w.frame ∈ frames s') {s : σ} (hs : I s) :
    WritesFrames step written frames pending s := by
  intro es t hrun htransfers
  have hsize : ∀ w ∈ t.writes, w.size ≤ w.frame.length := fun w hw =>
    (of_decide_eq_true ((along_iff hstep hs hrun).mp htransfers w hw)).2
  have hiff := (whole_iff (pending t.party) hsize).trans (along_iff hstep hs hrun).symm
  refine ⟨fun htakes => (hiff.mpr htakes).framed ?_, hiff⟩
  refine (invariant (I := fun w : Wire σ α => I w.party ∧
    ∀ write ∈ w.writes, write.frame ∈ frames w.party) ?_ es _ t
    ⟨hs, fun write h => by cases h⟩ hrun).2
  rintro w e w' ⟨hw, hwrites⟩ h
  obtain ⟨s', hs', rfl⟩ := Option.map_eq_some_iff.mp h
  obtain ⟨hsubset, hwritten⟩ := hframes w.party e s' hw hs'
  refine ⟨hstep w.party e s' hw hs', fun write hwrite => ?_⟩
  rcases List.mem_append.mp hwrite with hold | hnew
  · exact hsubset (hwrites write hold)
  · exact hwritten write (Option.mem_toList.mp hnew)

end Wire

end Framing
