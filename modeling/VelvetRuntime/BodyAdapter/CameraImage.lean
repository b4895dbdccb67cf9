import VelvetRuntime.BodyAdapter.Camera
import VelvetRuntime.Python.Bytes

open python python.except

namespace velvet.current_frame_publisher

def camera_frame_error (message : String) : Error := ⟨.CameraFrameError, message⟩

def PNG_SIGNATURE : List UInt8 := [0x89, 0x50, 0x4E, 0x47, 0x0D, 0x0A, 0x1A, 0x0A]

def JPEG_START : List UInt8 := [0xFF, 0xD8]

def JPEG_END : List UInt8 := [0xFF, 0xD9]

def JPEG_SOF_MARKERS : List UInt8 := [0xC0, 0xC1, 0xC2, 0xC3, 0xC5, 0xC6, 0xC7, 0xC9, 0xCA, 0xCB, 0xCD, 0xCE, 0xCF]

/-- The markers of `_jpeg_dimensions` that no segment follows. -/
def is_standalone (marker : UInt8) : Bool := marker ∈ [0x00, 0x01, 0xD8, 0xD9] || (0xD0 ≤ marker && marker ≤ 0xD7)

/-- The bounds of a slice. -/
structure Span where
  start : Nat
  stop : Nat

/-- `content[start:stop]`, which is shorter where the content ends before. -/
def slice (content : List UInt8) (span : Span) : List UInt8 := (content.take span.stop).drop span.start

/-- `int.from_bytes(content[start:stop], byteorder="big")`. -/
def from_bytes (content : List UInt8) (span : Span) : Nat :=
  (slice content span).foldl (fun value byte => 256 * value + byte.toNat) 0

def png_dimensions (content : List UInt8) : Except Error (Nat × Nat) :=
  if content.length < 45 then .error (camera_frame_error "PNG camera frame is truncated")
  else if slice content ⟨12, 16⟩ ≠ [0x49, 0x48, 0x44, 0x52] then
    .error (camera_frame_error "PNG camera frame has no IHDR chunk")
  else if slice content ⟨content.length - 8, content.length - 4⟩ ≠ [0x49, 0x45, 0x4E, 0x44] then
    .error (camera_frame_error "PNG camera frame has no terminal IEND chunk")
  else
    let width := from_bytes content ⟨16, 20⟩
    let height := from_bytes content ⟨20, 24⟩
    if width = 0 ∨ height = 0 then .error (camera_frame_error "PNG camera dimensions are invalid")
    else .ok (width, height)

/-- The inner loops: skip the bytes for which the condition holds. -/
def skip_while (condition : UInt8 → Bool) (content : List UInt8) (index : Nat) : Nat :=
  if h : index < content.length then
    if condition content[index] then skip_while condition content (index + 1) else index
  else index
termination_by content.length - index

/-- How one turn of the outer loop ends: it goes on, the loop ends, or the function returns or raises. -/
inductive Turn where
  | again (index : Nat)
  | ended
  | returned (width height : Nat)
  | raised (error : Error)

/-- What follows a marker: a segment whose length is declared, unless the marker stands alone. The slices that are
interpreted come along. -/
def turn_after_marker (content : List UInt8) (marker : UInt8) (index : Nat) : Turn × List Span :=
  if is_standalone marker then (.again index, [])
  else if content.length < index + 2 then (.ended, [])
  else
    let length_span : Span := ⟨index, index + 2⟩
    let segment_length := from_bytes content length_span
    if segment_length < 2 ∨ content.length < index + segment_length then
      (.raised (camera_frame_error "JPEG camera frame contains an invalid segment"), [length_span])
    else if marker ∈ JPEG_SOF_MARKERS then
      if segment_length < 7 then (.raised (camera_frame_error "JPEG SOF segment is too short"), [length_span])
      else
        let height_span : Span := ⟨index + 3, index + 5⟩
        let width_span : Span := ⟨index + 5, index + 7⟩
        let height := from_bytes content height_span
        let width := from_bytes content width_span
        if width = 0 ∨ height = 0 then
          (.raised (camera_frame_error "JPEG camera dimensions are invalid"), [length_span, height_span, width_span])
        else (.returned width height, [length_span, height_span, width_span])
    else (.again (index + segment_length), [length_span])

/-- One turn of the outer loop. -/
def turn (content : List UInt8) (index : Nat) : Turn × List Span :=
  let index := skip_while (· ≠ 0xFF) content index
  let index := skip_while (· = 0xFF) content index
  if h : index < content.length then turn_after_marker content content[index] (index + 1) else (.ended, [])

section turns

variable {content : List UInt8} {condition : UInt8 → Bool} {index : Nat}

theorem le_skip_while (condition : UInt8 → Bool) (content : List UInt8) (index : Nat) :
    index ≤ skip_while condition content index := by
  fun_induction skip_while condition content index with
  | case1 index _ _ ih => exact Nat.le_of_succ_le ih
  | case2 => exact Nat.le_refl _
  | case3 => exact Nat.le_refl _

/-- A turn that goes on after a marker goes on behind it, and behind what it declares. -/
theorem turn_after_marker_again {marker : UInt8} {next : Nat}
    (hagain : (turn_after_marker content marker index).1 = .again next) :
    next = index ∧ is_standalone marker = true ∨
      is_standalone marker = false ∧ ∃ segment_length, segment_length = from_bytes content ⟨index, index + 2⟩ ∧
        2 ≤ segment_length ∧ next = index + segment_length ∧ next ≤ content.length := by
  unfold turn_after_marker at hagain
  split at hagain
  · rename_i hstandalone
    cases hagain
    exact .inl ⟨rfl, hstandalone⟩
  rename_i hsegment
  split at hagain
  · cases hagain
  dsimp only at hagain
  split at hagain
  · cases hagain
  rename_i hlength
  split at hagain
  · split at hagain
    · cases hagain
    · split at hagain <;> cases hagain
  · cases hagain
    rw [not_or, Nat.not_lt, Nat.not_lt] at hlength
    exact .inr ⟨Bool.eq_false_iff.mpr hsegment, _, rfl, hlength.1, rfl, hlength.2⟩

/-- A turn that goes on has passed a marker. -/
theorem lt_of_again {next : Nat} (hagain : (turn content index).1 = .again next) : index < next := by
  have hother := le_skip_while (· ≠ 0xFF) content index
  have hfill := le_skip_while (· = 0xFF) content (skip_while (· ≠ 0xFF) content index)
  unfold turn at hagain
  dsimp only at hagain
  split at hagain
  · rcases turn_after_marker_again hagain with ⟨hnext, -⟩ | ⟨-, segment_length, -, -, hnext, -⟩
    · omega
    · omega
  · cases hagain

end turns

def no_segment : Error := camera_frame_error "JPEG camera frame has no supported SOF segment"

/-- The outer loop, with the slices that it interprets. -/
def walk (content : List UInt8) (index : Nat) : Except Error (Nat × Nat) × List Span :=
  if index < content.length then
    match _hturn : turn content index with
    | (.again next, slices) => ((walk content next).1, slices ++ (walk content next).2)
    | (.ended, slices) => (.error no_segment, slices)
    | (.returned width height, slices) => (.ok (width, height), slices)
    | (.raised error, slices) => (.error error, slices)
  else (.error no_segment, [])
termination_by content.length - index
decreasing_by all_goals
  have hless := lt_of_again (congrArg Prod.fst _hturn)
  omega

/-- `_jpeg_dimensions`, with the slices that it interprets. -/
def jpeg_walk (content : List UInt8) : Except Error (Nat × Nat) × List Span :=
  if content.length < 12 ∨ ¬JPEG_END <:+ content then (.error (camera_frame_error "JPEG camera frame is truncated"), [])
  else walk content 2

def jpeg_dimensions (content : List UInt8) : Except Error (Nat × Nat) := (jpeg_walk content).1

section layout

variable (content : List UInt8)

/-- At the position there is a marker with a segment that declares its length, marker excluded, and lies whole within the
content. -/
structure IsSegment (position : Nat) (marker : UInt8) (length : Nat) : Prop where
  mark : content[position]? = some 0xFF
  marker_at : content[position + 1]? = some marker
  not_fill : marker ≠ 0xFF
  not_standalone : is_standalone marker = false
  declared : length = from_bytes content ⟨position + 2, position + 4⟩
  at_least_two : 2 ≤ length
  whole : position + 2 + length ≤ content.length

/-- From one position to the next: over a byte between segments, over a marker that stands alone, or over a whole segment
with its marker. -/
inductive Passes : Nat → Nat → Prop where
  | byte {position : Nat} {byte : UInt8} : content[position]? = some byte → byte ≠ 0xFF → Passes position (position + 1)
  | fill {position : Nat} : content[position]? = some 0xFF → content[position + 1]? = some 0xFF →
      Passes position (position + 1)
  | standalone {position : Nat} {marker : UInt8} : content[position]? = some 0xFF →
      content[position + 1]? = some marker → marker ≠ 0xFF → is_standalone marker = true → Passes position (position + 2)
  | segment {position length : Nat} {marker : UInt8} : IsSegment content position marker length →
      Passes position (position + 2 + length)

/-- The positions that are reached from the start by passing bytes between segments and whole segments. -/
inductive Outside : Nat → Prop where
  | start : Outside 2
  | passes {position next : Nat} : Outside position → Passes content position next → Outside next

end layout

variable {content : List UInt8} {position : Nat}

theorem Passes.lt {next : Nat} (hpasses : Passes content position next) : position < next := by
  cases hpasses <;> omega

theorem Passes.unique {next other : Nat} (hpasses : Passes content position next)
    (hother : Passes content position other) : next = other := by
  cases hpasses with
  | byte hbyte hne =>
    cases hother with
    | byte => rfl
    | fill hmark _ | standalone hmark _ _ _ =>
      cases hbyte.symm.trans hmark
      exact absurd rfl hne
    | segment hsegment =>
      cases hbyte.symm.trans hsegment.mark
      exact absurd rfl hne
  | fill hmark hfill =>
    cases hother with
    | byte => rfl
    | fill => rfl
    | standalone _ hmarker hne _ =>
      cases hfill.symm.trans hmarker
      exact absurd rfl hne
    | segment hsegment =>
      cases hfill.symm.trans hsegment.marker_at
      exact absurd rfl hsegment.not_fill
  | standalone hmark hmarker hne hstandalone =>
    cases hother with
    | byte hbyte hother =>
      cases hmark.symm.trans hbyte
      exact absurd rfl hother
    | fill _ hfill =>
      cases hmarker.symm.trans hfill
      exact absurd rfl hne
    | standalone => rfl
    | segment hsegment =>
      cases hmarker.symm.trans hsegment.marker_at
      cases hstandalone.symm.trans hsegment.not_standalone
  | segment hsegment =>
    cases hother with
    | byte hbyte hother =>
      cases hsegment.mark.symm.trans hbyte
      exact absurd rfl hother
    | fill _ hfill =>
      cases hsegment.marker_at.symm.trans hfill
      exact absurd rfl hsegment.not_fill
    | standalone _ hmarker _ hstandalone =>
      cases hsegment.marker_at.symm.trans hmarker
      cases hstandalone.symm.trans hsegment.not_standalone
    | segment hagain => rw [hsegment.declared, hagain.declared]

theorem Outside.two_le (houtside : Outside content position) : 2 ≤ position := by
  induction houtside with
  | start => exact Nat.le_refl 2
  | passes _ hpasses ih => exact ih.trans (Nat.le_of_lt hpasses.lt)

/-- The positions that are reached are one chain: none lies between another one and the one after that. -/
theorem Outside.next_le (houtside : Outside content position) : ∀ {other next : Nat}, Outside content other →
    Passes content other next → other < position → next ≤ position := by
  induction position using Nat.strongRecOn with
  | _ position ih =>
    intro other next hother hnext hless
    cases houtside with
    | start => exact absurd hother.two_le (Nat.not_le.mpr hless)
    | passes hearlier hpasses =>
      rename_i earlier
      rcases Nat.lt_trichotomy other earlier with hbefore | rfl | hafter
      · exact (ih earlier hpasses.lt hearlier hother hnext hbefore).trans (Nat.le_of_lt hpasses.lt)
      · exact Nat.le_of_eq (hnext.unique hpasses)
      · exact absurd (ih other hless hother hearlier hpasses hafter) (Nat.not_le.mpr hless)

/-- A start-of-frame segment that is reached, with the dimensions that it declares. -/
structure Declares (content : List UInt8) (width height : Nat) (position : Nat) (marker : UInt8) (length : Nat) : Prop where
  reached : Outside content position
  is_segment : IsSegment content position marker length
  start_of_frame : marker ∈ JPEG_SOF_MARKERS
  long_enough : 7 ≤ length
  height_read : height = from_bytes content ⟨position + 5, position + 7⟩
  width_read : width = from_bytes content ⟨position + 7, position + 9⟩

/-- Dimensions that are declared by a start-of-frame segment, and that are positive. The segment is reached, and no other
segment that is reached contains its marker. -/
def Declared (content : List UInt8) (width height : Nat) : Prop :=
  0 < width ∧ 0 < height ∧ ∃ position marker length, Declares content width height position marker length ∧
    ∀ other other_marker other_length, Outside content other → IsSegment content other other_marker other_length →
      position ≤ other ∨ other + 2 + other_length ≤ position

theorem Declares.declared {width height length : Nat} {marker : UInt8}
    (hdeclares : Declares content width height position marker length) (hwidth : 0 < width) (hheight : 0 < height) :
    Declared content width height := by
  refine ⟨hwidth, hheight, position, marker, length, hdeclares, fun other _ other_length hother hsegment => ?_⟩
  rcases Nat.lt_or_ge other position with hless | hle
  · exact .inr (hdeclares.reached.next_le hother (.segment hsegment) hless)
  · exact .inl hle

section skips

variable {condition : UInt8 → Bool} {index : Nat}

theorem outside_skip_other (houtside : Outside content index) :
    Outside content (skip_while (· ≠ 0xFF) content index) := by
  fun_induction skip_while (· ≠ 0xFF) content index with
  | case1 index hlt hother ih => exact ih (houtside.passes (.byte (List.getElem?_eq_getElem hlt) (by simpa using hother)))
  | case2 => exact houtside
  | case3 => exact houtside

theorem skip_while_stops {byte : UInt8} (hbyte : content[skip_while condition content index]? = some byte) :
    condition byte = false := by
  fun_induction skip_while condition content index with
  | case1 _ _ _ ih => exact ih hbyte
  | case2 index hlt hstop =>
    rw [List.getElem?_eq_getElem hlt] at hbyte
    cases hbyte
    exact Bool.eq_false_iff.mpr hstop
  | case3 index hend =>
    rw [List.getElem?_eq_none (Nat.not_lt.mp hend)] at hbyte
    cases hbyte

theorem outside_skip_fill (houtside : Outside content position) (hmark : content[position]? = some 0xFF) :
    ∃ last, skip_while (· = 0xFF) content (position + 1) = last + 1 ∧ Outside content last ∧
      content[last]? = some 0xFF := by
  generalize hindex : position + 1 = index
  fun_induction skip_while (· = 0xFF) content index generalizing position with
  | case1 index hlt hfill ih =>
    have hbyte : content[index]? = some 0xFF := by
      rw [List.getElem?_eq_getElem hlt]
      exact congrArg some (by simpa using hfill)
    subst hindex
    exact ih (houtside.passes (.fill hmark hbyte)) hbyte rfl
  | case2 => exact ⟨position, hindex.symm, houtside, hmark⟩
  | case3 => exact ⟨position, hindex.symm, houtside, hmark⟩

/-- Where the inner loops stop before the end, they stop behind the mark of a marker that is reached. -/
theorem skips_reach_marker (houtside : Outside content index) {marker : UInt8}
    (hmarker : content[skip_while (· = 0xFF) content (skip_while (· ≠ 0xFF) content index)]? = some marker) :
    ∃ position, skip_while (· = 0xFF) content (skip_while (· ≠ 0xFF) content index) = position + 1 ∧
      Outside content position ∧ content[position]? = some 0xFF ∧ marker ≠ 0xFF := by
  have hstop : marker ≠ 0xFF := by simpa using skip_while_stops hmarker
  have hreached := outside_skip_other houtside
  have hmark : ∀ byte, content[skip_while (· ≠ 0xFF) content index]? = some byte → byte = 0xFF := fun byte hbyte => by
    simpa using skip_while_stops hbyte
  generalize skip_while (· ≠ 0xFF) content index = first at hmarker hreached hmark ⊢
  obtain ⟨hlt, -⟩ := List.getElem?_eq_some_iff.mp hmarker
  have hfirst : first < content.length := Nat.lt_of_le_of_lt (le_skip_while _ _ _) hlt
  have hfill : content[first] = 0xFF := hmark _ (List.getElem?_eq_getElem hfirst)
  rw [skip_while, dif_pos hfirst, if_pos (by simpa using hfill)] at hmarker ⊢
  obtain ⟨last, hlast, houtside, hmark⟩ := outside_skip_fill hreached
    ((List.getElem?_eq_getElem hfirst).trans (congrArg some hfill))
  exact ⟨last, hlast, houtside, hmark, hstop⟩

end skips

/-- A slice that is not shortened. -/
def Span.Within (content : List UInt8) (span : Span) : Prop := span.start ≤ span.stop ∧ span.stop ≤ content.length

/-- What a turn from a reached position comes to. -/
structure TurnReads (content : List UInt8) (result : Turn × List Span) : Prop where
  goes_on : ∀ next, result.1 = .again next → Outside content next
  finds : ∀ width height, result.1 = .returned width height → Declared content width height
  within : ∀ span ∈ result.2, span.Within content

theorem turn_after_marker_reads {marker : UInt8} (houtside : Outside content position)
    (hmark : content[position]? = some 0xFF) (hmarker : content[position + 1]? = some marker) (hne : marker ≠ 0xFF) :
    TurnReads content (turn_after_marker content marker (position + 2)) := by
  obtain ⟨hlt, -⟩ := List.getElem?_eq_some_iff.mp hmarker
  unfold turn_after_marker
  split
  · rename_i hstandalone
    refine ⟨fun next hagain => ?_, nofun, nofun⟩
    cases hagain
    exact houtside.passes (.standalone hmark hmarker hne hstandalone)
  rename_i hsegment
  split
  · exact ⟨nofun, nofun, nofun⟩
  rename_i hread
  rw [Nat.not_lt] at hread
  dsimp only
  generalize hdeclared : from_bytes content ⟨position + 2, position + 2 + 2⟩ = segment_length
  have hwithin : ∀ span ∈ [(⟨position + 2, position + 2 + 2⟩ : Span)], span.Within content := by
    simpa [Span.Within] using hread
  split
  · exact ⟨nofun, nofun, hwithin⟩
  rename_i hlength
  rw [not_or, Nat.not_lt, Nat.not_lt] at hlength
  have his_segment : IsSegment content position marker segment_length :=
    ⟨hmark, hmarker, hne, Bool.eq_false_iff.mpr hsegment, hdeclared.symm, hlength.1, hlength.2⟩
  split
  · rename_i hframe
    split
    · exact ⟨nofun, nofun, hwithin⟩
    rename_i hlong
    rw [Nat.not_lt] at hlong
    have hwithin : ∀ span ∈ [(⟨position + 2, position + 2 + 2⟩ : Span), ⟨position + 2 + 3, position + 2 + 5⟩,
        ⟨position + 2 + 5, position + 2 + 7⟩], span.Within content := by
      have hwhole := hlength.2
      simp only [List.forall_mem_cons, Span.Within]
      refine ⟨⟨by omega, hread⟩, ⟨by omega, by omega⟩, ⟨by omega, by omega⟩, nofun⟩
    split
    · exact ⟨nofun, nofun, hwithin⟩
    · rename_i hpositive
      rw [not_or] at hpositive
      refine ⟨nofun, fun width height hreturned => ?_, hwithin⟩
      cases hreturned
      exact Declares.declared ⟨houtside, his_segment, hframe, hlong, rfl, rfl⟩ (Nat.pos_of_ne_zero hpositive.1)
        (Nat.pos_of_ne_zero hpositive.2)
  · refine ⟨fun next hagain => ?_, nofun, hwithin⟩
    cases hagain
    exact houtside.passes (.segment his_segment)

theorem turn_reads {index : Nat} (houtside : Outside content index) : TurnReads content (turn content index) := by
  unfold turn
  dsimp only
  split
  · rename_i hlt
    obtain ⟨position, hposition, hreached, hmark, hne⟩ := skips_reach_marker houtside (List.getElem?_eq_getElem hlt)
    have hmarker := List.getElem?_eq_getElem hlt
    simp only [hposition] at hmarker ⊢
    exact turn_after_marker_reads hreached hmark hmarker (by simpa only [hposition] using hne)
  · exact ⟨nofun, nofun, nofun⟩

/-- What the walk from a reached position comes to. -/
theorem walk_reads {index : Nat} (houtside : Outside content index) :
    (∀ width height, (walk content index).1 = .ok (width, height) → Declared content width height) ∧
      ∀ span ∈ (walk content index).2, span.Within content := by
  fun_induction walk content index with
  | case1 index hlt next slices hturn ih =>
    have hreads := turn_reads houtside
    rw [hturn] at hreads
    obtain ⟨hfound, hwithin⟩ := ih (hreads.goes_on next rfl)
    exact ⟨hfound, fun span hspan => (List.mem_append.mp hspan).elim (hreads.within span) (hwithin span)⟩
  | case2 index hlt slices hturn =>
    have hreads := turn_reads houtside
    rw [hturn] at hreads
    exact ⟨nofun, hreads.within⟩
  | case3 index hlt width height slices hturn =>
    have hreads := turn_reads houtside
    rw [hturn] at hreads
    refine ⟨fun _ _ hok => ?_, hreads.within⟩
    cases hok
    exact hreads.finds width height rfl
  | case4 index hlt error slices hturn =>
    have hreads := turn_reads houtside
    rw [hturn] at hreads
    exact ⟨nofun, hreads.within⟩
  | case5 => exact ⟨nofun, nofun⟩

/-- The outer loop has no run without an end. -/
theorem wellFounded_turn (content : List UInt8) :
    WellFounded fun next index => index < content.length ∧ (turn content index).1 = .again next :=
  Subrelation.wf (fun {next index} hstep => by
    have hless := lt_of_again hstep.2
    have hlt := hstep.1
    change content.length - next < content.length - index
    omega) (measure (content.length - ·)).wf

/-- `CameraImageInfo(...)`, with the checks of `__post_init__`. -/
def camera_image_info (image_format : String) (width height byte_count : Nat) (content_sha256 : String) :
    Except Error CameraImageInfo :=
  if hformat : image_format ∉ ["jpeg", "png"] then .error ⟨.ValueError, "image_format must be jpeg or png"⟩
  else if hdimensions : ¬(0 < width ∧ 0 < height) then .error ⟨.ValueError, "image dimensions must be positive"⟩
  else if hcount : byte_count < 8 then .error ⟨.ValueError, "image is too small"⟩
  else if hdigest : content_sha256.toList.length ≠ 64 then
    .error ⟨.ValueError, "content_sha256 must be a SHA-256 hex digest"⟩
  else
    .ok {
      image_format
      width
      height
      byte_count
      content_sha256
      format_known := not_not.mp hformat
      dimensions_positive := by
        have hpositive := not_not.mp hdimensions
        omega
      byte_count_bound := by omega
      digest_length := not_not.mp hdigest }

variable {info : CameraImageInfo} {image_format : String}

theorem camera_image_info_ok {width height byte_count : Nat} {content_sha256 : String} (hok : camera_image_info image_format width height byte_count content_sha256 = .ok info) :
    info.image_format = image_format ∧ info.width = width ∧ info.height = height := by
  unfold camera_image_info at hok
  split_ifs at hok
  cases hok
  exact ⟨rfl, rfl, rfl⟩

/-- `_bounded_integer`. -/
def bounded_integer (label : String) (minimum maximum : Int) : Json → Except Error Int
  | .int value =>
    if minimum ≤ value ∧ value ≤ maximum then .ok value
    else .error ⟨.ValueError, label ++ " must be between " ++ toString minimum ++ " and " ++ toString maximum⟩
  | _ => .error ⟨.TypeError, label ++ " must be an integer"⟩

theorem bounded_integer_ok {label : String} {minimum maximum bound : Int} {value : Json}
    (hok : bounded_integer label minimum maximum value = .ok bound) : value = .int bound := by
  cases value with
  | int value =>
    simp only [bounded_integer] at hok
    split_ifs at hok
    cases hok
    rfl
  | _ => cases hok

section inspection

variable (sha256 : List UInt8 → { digest : List UInt8 // digest.length = 32 }) (content : List UInt8)

/-- The format of the content by its first bytes, and the dimensions that it declares. -/
def format_and_dimensions : Except Error (String × Nat × Nat) :=
  if PNG_SIGNATURE <+: content then (png_dimensions content).map ("png", ·)
  else if JPEG_START <+: content then (jpeg_dimensions content).map ("jpeg", ·)
  else .error (camera_frame_error "camera image is neither a valid PNG nor JPEG")

/-- `inspect_camera_image`. -/
def inspect_camera_image (max_bytes max_pixels : Json) : Except Error CameraImageInfo := do
  let max_bytes ← bounded_integer "max_bytes" 1024 (128 * 1024 * 1024) max_bytes
  let max_pixels ← bounded_integer "max_pixels" 256 100000000 max_pixels
  if content.length < 8 ∨ max_bytes < content.length then
    .error (camera_frame_error "camera image size is outside configured bounds")
  else
    let (image_format, width, height) ← format_and_dimensions content
    if max_pixels < width * height then .error (camera_frame_error "camera image exceeds configured pixel limit")
    else camera_image_info image_format width height content.length (String.ofList (bytes.hex (sha256 content).1))

end inspection

theorem format_and_dimensions_ok {width height : Nat}
    (hok : format_and_dimensions content = .ok (image_format, width, height)) :
    image_format = "png" ∧ png_dimensions content = .ok (width, height) ∨
      image_format = "jpeg" ∧ jpeg_dimensions content = .ok (width, height) := by
  unfold format_and_dimensions at hok
  split at hok
  · obtain ⟨dimensions, hdimensions, heq⟩ := map_eq_ok.mp hok
    cases heq
    exact .inl ⟨rfl, hdimensions⟩
  · split at hok
    · obtain ⟨dimensions, hdimensions, heq⟩ := map_eq_ok.mp hok
      cases heq
      exact .inr ⟨rfl, hdimensions⟩
    · cases hok

/-- An image that is accepted has the dimensions that its content declares, and they are within the limit. -/
theorem inspect_camera_image_ok {sha256 : List UInt8 → { digest : List UInt8 // digest.length = 32 }}
    {max_bytes max_pixels : Json}
    (hok : inspect_camera_image sha256 content max_bytes max_pixels = .ok info) :
    ∃ width height : Nat, ∃ bound, info.width = width ∧ info.height = height ∧ max_pixels = .int bound ∧
      width * height ≤ bound ∧ (info.image_format = "png" ∧ png_dimensions content = .ok (width, height) ∨
        info.image_format = "jpeg" ∧ jpeg_dimensions content = .ok (width, height)) := by
  unfold inspect_camera_image at hok
  obtain ⟨limit, -, hok⟩ := bind_eq_ok.mp hok
  obtain ⟨bound, hbound, hok⟩ := bind_eq_ok.mp hok
  split at hok
  · cases hok
  obtain ⟨⟨image_format, width, height⟩, hdimensions, hok⟩ := bind_eq_ok.mp hok
  dsimp only at hok
  split at hok
  · cases hok
  rename_i hpixels
  obtain ⟨hformat, hwidth, hheight⟩ := camera_image_info_ok hok
  rw [hformat]
  exact ⟨width, height, bound, hwidth, hheight, bounded_integer_ok hbound, Int.not_lt.mp hpixels,
    format_and_dimensions_ok hdimensions⟩

/-- The walk over the header ends, interprets whole slices only, and returns positive dimensions of a start-of-frame
segment that no segment before it contains. An image is accepted within the pixel limit only. -/
theorem header_walk_sound (sha256 : List UInt8 → { digest : List UInt8 // digest.length = 32 }) (content : List UInt8) :
    (WellFounded fun next index => index < content.length ∧ (turn content index).1 = .again next) ∧
      (∀ span ∈ (jpeg_walk content).2, span.Within content) ∧
      (∀ width height, jpeg_dimensions content = .ok (width, height) → Declared content width height) ∧
      ∀ max_bytes max_pixels info, inspect_camera_image sha256 content max_bytes max_pixels = .ok info →
        ∃ width height : Nat, ∃ bound, info.width = width ∧ info.height = height ∧ max_pixels = .int bound ∧
          width * height ≤ bound ∧ (info.image_format = "png" ∧ png_dimensions content = .ok (width, height) ∨
            info.image_format = "jpeg" ∧ jpeg_dimensions content = .ok (width, height)) := by
  have hwalk : (∀ width height, jpeg_dimensions content = .ok (width, height) → Declared content width height) ∧
      ∀ span ∈ (jpeg_walk content).2, span.Within content := by
    unfold jpeg_dimensions jpeg_walk
    split
    · exact ⟨nofun, nofun⟩
    · exact walk_reads .start
  exact ⟨wellFounded_turn content, hwalk.2, hwalk.1, fun _ _ _ hok => inspect_camera_image_ok hok⟩

example : jpeg_dimensions [0xFF, 0xD8, 0xFF, 0xC0, 0, 7, 8, 0, 2, 0, 3, 0xFF, 0xD9] = .ok (3, 2) := by
  with_unfolding_all decide

end velvet.current_frame_publisher
