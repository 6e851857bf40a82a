import SunSpec.Proofs.Completeness
import SunSpec.Proofs.Supplied
import SunSpec.Proofs.TextBytes

/-!
# Strings in their fields

A string is cut where it is made a value, and once more where the value is written into a field of
another length.  In between it is a field of its own, filled up with zeros, and the second cut reads
those as characters.  `Value.fitTo_ofString` is what comes of it: the field holds what one cut to
the shorter of the two lengths would have left.

What is written for a point depends on nothing but its value (`DataBlock.place_string`), so this
holds of every step of a walk (`DataBlock.made_plan`), and where the fields of a model keep apart it
is what a reader of the image sees.
-/

namespace SunSpec

open Utf8 (IsCut)

namespace Value

/-- The value is a string whose field of `len` bytes holds characters. -/
structure HoldsText (v : Value) (len : Nat) (cs : List Char) : Prop where
  type_eq : v.type = .string
  payload_eq : v.payload = .string (Utf8.field len cs)
  text_eq : v.text = String.ofList (Utf8.seen cs)
  status_eq : v.status = .ok
  raw_eq : v.raw = (Utf8.field len cs).take rawCapacity

variable {s : String} {n : UInt16} {cs : List Char} {p : Point}

lemma holdsText_ofPayload {e : Encoding} (string : e.type = .string) (len : Nat) (cs : List Char) :
    (ofPayload e (.string (Utf8.field len cs))).HoldsText len cs := by
  refine ⟨string, rfl, Utf8.hostText_field len cs, ?_, raw_ofPayload _ _⟩
  rw [status_ofPayload, string]
  rfl

/-- A string is made a value by one cut. -/
lemma ofString_eq (cut : IsCut n.toNat s.toList cs) :
    ofString s n = ofPayload (.string n) (.string (Utf8.field n.toNat cs)) := by
  rw [ofString, setString, fillString_eq, (Utf8.isCut_fit _ _).unique cut,
    Utf8.pad_encodeChars cut.fits]

lemma size_of_string (string : p.encoding.type = .string) :
    p.size = p.encoding.declaredLen.toNat := by
  rw [Point.size, Encoding.size, string]

/-- A string that was made for one length and is taken by a point of another is cut to the shorter
of the two. -/
lemma fitTo_ofString (string : p.encoding.type = .string)
    (cut : IsCut (min n.toNat p.encoding.declaredLen.toNat) s.toList cs) :
    (ofString s n).fitTo p = .ok (ofPayload (.string p.encoding.declaredLen)
      (.string (Utf8.field p.encoding.declaredLen.toNat cs))) := by
  have first := Utf8.isCut_fit n.toNat s.toList
  have own := ofString_eq first
  have type : (ofString s n).type = .string := rfl
  unfold fitTo
  rw [type, if_neg (not_not.2 string.symm)]
  by_cases same : (ofString s n).encoding = p.encoding
  · -- the field has the length that the value was made for
    have len : p.encoding.declaredLen = n := by
      rw [← same]
      rfl
    rw [len, Nat.min_self] at cut
    rw [if_neg (fun refit => refit.2 same), len, ofString_eq cut]
  · have bytes : (ofString s n).stringBytes =
        .ok (Utf8.field n.toNat (Utf8.fit n.toNat s.toList)) := by
      rw [own]
      rfl
    have second := Utf8.isCut_fit p.encoding.declaredLen.toNat
      (Utf8.fit n.toNat s.toList)
    rw [if_pos ⟨rfl, same⟩, bytes]
    simp only [Except.map, Utf8.decode?_field]
    have refit := Utf8.isCut_fit p.encoding.declaredLen.toNat (String.ofList
      (Utf8.fit n.toNat s.toList ++ List.replicate
        (n.toNat - (Utf8.encodeChars (Utf8.fit n.toNat s.toList)).length) '\x00')).toList
    rw [ofString_eq refit]
    rw [String.toList_ofList] at refit ⊢
    rw [refit.field_eq_of_zeros second, (first.trans second).unique cut]

end Value

namespace DataBlock

variable {d : DataBlock} {available : Nat} {p : Point} {index : Option Nat} {s : String}
  {n : UInt16} {cs : List Char}

/-! ## One field -/

/-- Wherever there is room for a string, it is written, and written as one cut of it. -/
lemma place_string (string : p.encoding.type = .string)
    (supplied : d.valueFor p.name index = some (.ofString s n))
    (cut : IsCut (min n.toNat p.encoding.declaredLen.toNat) s.toList cs) {start : Nat}
    (room : start + p.size ≤ available) :
    ∃ v, d.place available index p start =
      .ok ⟨p, index, v, start, Utf8.field p.encoding.declaredLen.toNat cs⟩ := by
  have size := Value.size_of_string string
  have value : d.valueAt ⟨p, index⟩ = .ok (.ofPayload (.string p.encoding.declaredLen)
      (.string (Utf8.field p.encoding.declaredLen.toNat cs))) := by
    simp only [valueAt, supplied, Value.fitTo_ofString string cut]
  have length := Utf8.length_field (cut.fits.trans (Nat.min_le_right _ _))
  exact ⟨_, place_of_valueAt value room (Codec.encodeWithin_ofPayload rfl length size.ge)⟩

/-! ## Every field of an image -/

/-- All placements among the steps are made by the data block, point by point. -/
def Makes (d : DataBlock) (available : Nat) (steps : Array PlanStep) : Prop :=
  ∀ q ∈ placementsOf steps, d.place available q.index q.point q.start = .ok q

namespace Makes

variable {steps : Array PlanStep}

lemma placed {start : Nat} {q : Placement} (makes : d.Makes available steps)
    (h : d.place available index p start = .ok q) :
    d.Makes available (steps.push (.placed q)) := by
  obtain ⟨slot, rfl, -⟩ := place_ok h
  obtain ⟨rfl, rfl⟩ := Slot.mk.inj slot
  rw [Makes, placementsOf_push_placed]
  exact List.forall_mem_append.2 ⟨makes, List.forall_mem_singleton.2 h⟩

lemma left (makes : d.Makes available steps) (p : Point) :
    d.Makes available (steps.push (.leftZero p)) := by
  rw [Makes, placementsOf_push_leftZero]
  exact makes

lemma planPoints (makes : d.Makes available steps) (b : Block) (index : Option Nat)
    (origin cursor : Nat) (ps : List Point) :
    d.Makes available (d.planPoints available b index origin steps cursor ps).steps := by
  induction ps generalizing steps cursor with
  | nil => exact makes
  | cons p ps ih =>
    unfold DataBlock.planPoints
    split
    · exact ih makes cursor
    · dsimp only
      split
      · refine ih ?_ _
        split
        · exact makes.left p
        · exact makes
      · split
        · exact makes
        · next q placed => exact ih (makes.placed placed) _

lemma planInstances (makes : d.Makes available steps) (b : Block) (origin count k : Nat) :
    d.Makes available (d.planInstances available b origin steps count k).steps := by
  induction count generalizing steps k with
  | zero => exact makes
  | succ count ih =>
    have here := makes.planPoints b (if b.repeating then some k else none) (origin + k * b.unit) 0
      b.points
    unfold DataBlock.planInstances
    dsimp only
    split
    · exact here
    · exact ih here (k + 1)

lemma planBlocks (makes : d.Makes available steps) (repeats origin : Nat) (bs : List Block) :
    d.Makes available (d.planBlocks available repeats origin steps bs).steps := by
  induction bs generalizing steps origin with
  | nil => exact makes
  | cons b bs ih =>
    have here := makes.planInstances b origin (if b.repeating then repeats else 1) 0
    unfold DataBlock.planBlocks
    dsimp only
    split
    · exact here
    · exact ih here _

end Makes

/-- Whatever the model, what a plan writes is made point by point. -/
lemma makes_plan (d : DataBlock) (m : Model) (declared : UInt16) :
    d.Makes (2 * declared.toNat) (d.plan m declared).steps := by
  have nothing : d.Makes (2 * declared.toNat) #[] := by simp [Makes, placementsOf, Plan.placements]
  exact nothing.planBlocks _ _ _

/-- A string that is supplied for a slot is written there as one cut of it. -/
lemma bytes_of_mem_plan (string : p.encoding.type = .string)
    (supplied : d.valueFor p.name index = some (.ofString s n))
    (cut : IsCut (min n.toNat p.encoding.declaredLen.toNat) s.toList cs) {m : Model}
    {declared : UInt16} {q : Placement} (hq : q ∈ (d.plan m declared).placements)
    (slot : q.slot = ⟨p, index⟩) : q.bytes = Utf8.field p.encoding.declaredLen.toNat cs := by
  have placed := d.makes_plan m declared q hq
  obtain ⟨rfl, rfl⟩ := Slot.mk.inj slot
  have room := (place_ok placed).2.2.2.1
  obtain ⟨v, eq⟩ := place_string string supplied cut room
  rw [placed] at eq
  exact congrArg Placement.bytes (Except.ok.inj eq)

/-! ## Every reading of an image -/

/-- Of the values for a slot the last one is taken. -/
lemma valueFor_of_last {before after : List PointValue} {g : PointValue}
    (values : d.values = before ++ g :: after) (covers : g.covers p.name index = true)
    (last : ∀ x ∈ after, x.covers p.name index = false) :
    d.valueFor p.name index = some g.value := by
  have found : d.values.reverse.find? (fun x => x.covers p.name index) = some g := by
    refine List.find?_eq_some_iff_append.2 ⟨covers, after.reverse, before.reverse, ?_, ?_⟩
    · rw [values]
      simp
    · simpa using last
  rw [valueFor, found]
  rfl

/-- A slot that a string was supplied for shows one cut of it. -/
lemma holdsText_of_shows (string : p.encoding.type = .string)
    (supplied : d.valueFor p.name index = some (.ofString s n))
    (cut : IsCut (min n.toNat p.encoding.declaredLen.toNat) s.toList cs) {v : Value}
    (decoded : v = .ofPayload p.encoding v.payload) (shows : d.Shows ⟨p, index⟩ v) :
    v.HoldsText p.encoding.declaredLen.toNat cs := by
  have holds : v.payload = .string (Utf8.field p.encoding.declaredLen.toNat cs) := by
    cases shows with
    | skipped skipped eq =>
      have skipped : p.encoding.type.isSkipped = true := skipped
      rw [string] at skipped
      cases skipped
    | zero unwritten same =>
      have unwritten : Value.unwritten? p.encoding.type = _ := unwritten
      rw [string] at unwritten
      cases unwritten
    | given written values covers last fitted same =>
      rw [valueFor_of_last values covers last] at supplied
      have eq := Option.some.inj supplied
      rw [eq, Value.fitTo_ofString string cut] at fitted
      cases fitted
      exact same.payload
    | missing written none same =>
      have nothing : d.valueFor p.name index = Option.none := by
        rw [valueFor, List.find?_eq_none.2 (by simpa using none)]
        rfl
      rw [supplied] at nothing
      cases nothing
  rw [decoded, holds]
  exact Value.holdsText_ofPayload string _ _

end DataBlock

/-- What was read of a field is the value that its payload makes. -/
lemma Reading.IsFrom.eq_ofPayload {r : Reading} {bytes : List UInt8} (h : r.IsFrom bytes)
    (wire : r.point.isSkipped = false) : r.value = .ofPayload r.point.encoding r.value.payload := by
  obtain ⟨start, -, decoded⟩ := h.2 wire
  obtain ⟨-, -, eq⟩ := Codec.decode_eq_ok_iff.1 decoded
  rw [eq]
  rfl

namespace DataBlock

/-- A data block writes characters at a slot: into every field of the point that has room, into
every image, at the place of the slot if the model was accepted, and so that they are read back,
from the field alone and, where the blocks of the model are in order, from the whole image. -/
structure WritesText (d : DataBlock) (s : Slot) (cs : List Char) : Prop where
  placed : ∀ available start, start + s.point.size ≤ available →
    ∃ v, d.place available s.index s.point start =
      .ok ⟨s.point, s.index, v, start, Utf8.field s.point.encoding.declaredLen.toNat cs⟩
  planned : ∀ m declared, ∀ q ∈ (d.plan m declared).placements, q.slot = s →
    q.bytes = Utf8.field s.point.encoding.declaredLen.toNat cs
  decoded : ∃ v, Codec.decode s.point.encoding
      (Utf8.field s.point.encoding.declaredLen.toNat cs) = .ok v ∧
    v.HoldsText s.point.encoding.declaredLen.toNat cs
  imaged : ∀ (source : Model) (name : String) (e : Entry) (regs : List UInt16),
    (source.resolve name).fault = none → e.model = (source.resolve name).model →
    d.encode e = .ok regs → s ∈ e.model.slots (d.instances e.model) →
    ∃ declared, regs = e.id :: declared ::
        Registers.ofBytes (payload declared (d.plan e.model declared).placements) ∧
      ∃ q ∈ (d.plan e.model declared).placements, q.slot = s ∧ q.start = e.model.position s ∧
        q.bytes = Utf8.field s.point.encoding.declaredLen.toNat cs
  read : ∀ (source : Model) (name : String) (e : Entry) (regs : List UInt16) (registry : Registry),
    (source.resolve name).fault = none → e.model = (source.resolve name).model →
    (∀ b ∈ e.model.blocks, b.InOrder) → registry.get? e.id = some e →
    (∀ g ∈ d.values, g.value.Made) → d.encode e = .ok regs →
    ∃ ds, Dataset.decode registry (Registers.toBytes regs) = .ok ds ∧
      ds.readings.map Reading.slot = e.model.slots (d.instances e.model) ∧
      ∀ r ∈ ds.readings, r.slot = s →
        r.value.HoldsText s.point.encoding.declaredLen.toNat cs

variable {d : DataBlock} {p : Point} {index : Option Nat} {s : String} {n : UInt16}
  {cs : List Char}

lemma writesText_of_cut (string : p.encoding.type = .string)
    (supplied : d.valueFor p.name index = some (.ofString s n))
    (cut : IsCut (min n.toNat p.encoding.declaredLen.toNat) s.toList cs) :
    d.WritesText ⟨p, index⟩ cs := by
  have wire : p.isSkipped = false := by
    rw [Point.isSkipped, string]
    rfl
  have length := Utf8.length_field (cut.fits.trans (Nat.min_le_right _ _))
  constructor
  · exact fun available start room => place_string string supplied cut room
  · exact fun m declared q hq slot => bytes_of_mem_plan string supplied cut hq slot
  · refine ⟨_, Codec.decode_of_length wire (length.trans (Value.size_of_string string).symm), ?_⟩
    rw [string]
    exact Value.holdsText_ofPayload string _ _
  · intro source name e regs accepted resolved encoded hs
    have laidOut : e.model.LaidOut := resolved ▸ Model.laidOut_of_resolve accepted
    obtain ⟨declared, -, unstopped, eq⟩ := encode_ok encoded
    obtain ⟨slots, placed⟩ := laidOut.placed_of_plan unstopped
    have written : Slot.isWritten ⟨p, index⟩ = true := by
      rw [Slot.isWritten, string]
      rfl
    have mem := List.mem_filter.2 ⟨hs, written⟩
    rw [← slots] at mem
    obtain ⟨q, hq, slot⟩ := List.mem_map.1 mem
    have start : q.start = e.model.position q.slot := (place_ok (placed q hq)).2.1
    rw [slot] at start
    exact ⟨declared, eq, q, hq, slot, start, bytes_of_mem_plan string supplied cut hq slot⟩
  · intro source name e regs registry accepted resolved ordered held made encoded
    have laidOut : e.model.LaidOut := resolved ▸ Model.laidOut_of_resolve accepted
    obtain ⟨declared, payload, image, slots, shown⟩ :=
      shownBy_of_encode laidOut ordered made encoded
    obtain ⟨_, reads⟩ := Dataset.ofPayload_readOff laidOut declared payload
    rw [image]
    refine ⟨_, Dataset.decode_header held declared payload, slots, fun r hr slot => ?_⟩
    have shows := shown r hr
    have isFrom := reads.isFrom r hr
    obtain ⟨rfl, rfl⟩ := Slot.mk.inj slot
    exact holdsText_of_shows string supplied cut (isFrom.eq_ofPayload wire) shows

/-- **Cutting a string twice is cutting it once.**  A string that is made a value of `n` bytes has
the longest prefix of whole characters that fits, filled up with zeros, and as its text what stands
in front of the first zero character: no more than `n` bytes, and no character that is not in the
string.  Given to a point of another length, the value is written as the longest prefix of the
string itself that fits into both lengths, with zeros behind it, and read back as the text that one
cut to the shorter of them would have. -/
theorem writes_cut (s : String) (n : UInt16) :
    (∃ p, IsCut n.toNat s.toList p ∧ (Value.ofString s n).HoldsText n.toNat p ∧
      (Utf8.encode (Value.ofString s n).text).length ≤ n.toNat ∧
      ∀ c ∈ (Value.ofString s n).text.toList, c ∈ s.toList) ∧
    ∀ point : Point, point.encoding.type = .string →
      ∃ p, IsCut (min n.toNat point.encoding.declaredLen.toNat) s.toList p ∧
        (Value.ofString s (min n point.encoding.declaredLen)).HoldsText
          (min n.toNat point.encoding.declaredLen.toNat) p ∧
        ∀ (d : DataBlock) (index : Option Nat),
          d.valueFor point.name index = some (.ofString s n) → d.WritesText ⟨point, index⟩ p := by
  have holds : ∀ (k : UInt16) p, IsCut k.toNat s.toList p →
      (Value.ofString s k).HoldsText k.toNat p := by
    intro k p cut
    rw [Value.ofString_eq cut]
    exact Value.holdsText_ofPayload rfl _ _
  constructor
  · have cut := Utf8.isCut_fit n.toNat s.toList
    have held := holds n _ cut
    have front : Utf8.seen (Utf8.fit n.toNat s.toList) <+: Utf8.fit n.toNat s.toList :=
      List.takeWhile_prefix _
    refine ⟨_, cut, held, ?_, fun c hc => ?_⟩
    · rw [held.text_eq, Utf8.encode, String.toList_ofList]
      exact (Utf8.length_le_of_front front).trans cut.fits
    · rw [held.text_eq, String.toList_ofList] at hc
      exact (front.trans cut.front).subset hc
  · intro point string
    have cut := Utf8.isCut_fit (min n.toNat point.encoding.declaredLen.toNat) s.toList
    have shorter : (min n point.encoding.declaredLen).toNat =
        min n.toNat point.encoding.declaredLen.toNat := by
      show (if n ≤ point.encoding.declaredLen then n else point.encoding.declaredLen).toNat = _
      rw [Nat.min_def]
      simp only [UInt16.le_iff_toNat_le]
      split <;> rfl
    refine ⟨_, cut, ?_, fun d index supplied => writesText_of_cut string supplied cut⟩
    rw [← shorter] at cut ⊢
    exact holds _ _ cut

end DataBlock

/-! ### A name for the converter

It fits into the six bytes that it was made for, and its last character straddles the end of the
five bytes of the point. -/

/-- Values for no input. -/
def namedBlock : DataBlock where
  name := "roof"
  modelId := 160
  repeats := 0
  values := [⟨"Nm", none, .ofString "four\u00e9" 6⟩]

theorem DataBlock.writes_cut_straddling :
    let point : Point := ⟨"Nm", .string 5, some 4, []⟩
    namedBlock.valueFor point.name none = some (.ofString "four\u00e9" 6) ∧
      (Value.ofString "four\u00e9" 6).text = "four\u00e9" ∧
      namedBlock.encode laidConverter =
        .ok [160, 8, 0x8000, 0x666F, 0x7572, 0, 0, 0, 0, 0] ∧
      ∃ ds, Dataset.decode converterRegistry (Registers.toBytes
          [160, 8, 0x8000, 0x666F, 0x7572, 0, 0, 0, 0, 0]) = .ok ds ∧
        (∃ r ∈ ds.readings, r.slot = ⟨point, none⟩) ∧
        ∀ r ∈ ds.readings, r.slot = ⟨point, none⟩ →
          r.value.HoldsText 5 ['f', 'o', 'u', 'r'] := by
  intro point
  have supplied : namedBlock.valueFor point.name none = some (.ofString "four\u00e9" 6) := rfl
  have encoded : namedBlock.encode laidConverter =
      .ok [160, 8, 0x8000, 0x666F, 0x7572, 0, 0, 0, 0, 0] := by decide +kernel
  have made : ∀ g ∈ namedBlock.values, g.value.Made := List.forall_mem_singleton.2 (.ofString _ _)
  obtain ⟨p, cut, -, writes⟩ := (DataBlock.writes_cut "four\u00e9" 6).2 point rfl
  have four : p = ['f', 'o', 'u', 'r'] := cut.unique (Utf8.isCut_fit 5 "four\u00e9".toList)
  obtain ⟨ds, decoded, slots, held⟩ := (writes namedBlock none supplied).read converter.model
    converter.name laidConverter _ converterRegistry rfl rfl (by decide) rfl made encoded
  refine ⟨supplied, by decide +kernel, encoded, ds, decoded, ?_, four ▸ held⟩
  have mem : (⟨point, none⟩ : Slot) ∈ ds.readings.map Reading.slot := by
    rw [slots]
    decide
  exact List.mem_map.1 mem

end SunSpec
