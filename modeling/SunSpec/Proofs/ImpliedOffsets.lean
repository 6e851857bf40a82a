import SunSpec.Proofs.Acceptance
import SunSpec.Proofs.Relayout
import SunSpec.Proofs.ShortReads

/-!
# Reading with and without offsets

A point that has no offset is read behind the field before it, wherever the reader stands; a point
that layout gave one is read at its offset, counted from the start of its block.  The two ways to
find a field meet in a block whose points have no offsets of their own: what layout writes into
them is the running offset, which grows by the registers of each point, while the cursor of the
reader grows by the registers of each field (`Block.readPoints_of_implied`).  Points that the reader
skips have no registers, so they part neither of them from the other.

The premise comes from `Block.IsLaid`, which says where a point without an offset is placed.  At the
end of the block the reader takes what is left of its length where layout has found one, and there
the length is that of the fields; so it does not matter either that a block which was not laid out
has none.
-/

namespace SunSpec

/-! ## Readings without offsets -/

/-- The reading of a point whose offset is left aside. -/
def Reading.bare (r : Reading) : Reading := { r with point := r.point.bare }

/-- What was read of an instance, without the offsets of its points. -/
def InstanceReading.bare (r : InstanceReading) : InstanceReading :=
  { r with readings := r.readings.map Reading.bare }

/-- What was read of a block, without the offsets of its points. -/
def BlockReading.bare (r : BlockReading) : BlockReading :=
  { r with readings := r.readings.map Reading.bare }

namespace Point

lemma bare_of_implied {p : Point} (implied : p.offset = none) : p.bare = p := by
  obtain ⟨name, encoding, offset, defines⟩ := p
  cases implied
  rfl

/-- A point that has no wire form takes no registers. -/
lemma registers_of_skipped {p : Point} (skipped : p.isSkipped = true) : p.registers = 0 := by
  have size : p.encoding.size = 0 := by
    unfold Encoding.size
    rcases (PointType.isSkipped_iff p.encoding.type).1 skipped with type | type
    · rw [type]
      rfl
    · rw [type]
      rfl
  rw [registers, Encoding.registers, size]

end Point

namespace Block

/-! ## The running cursor and the running offset -/

/-- Points that were placed one behind the other are read where a cursor comes to them, and the
cursor ends where they end. -/
lemma readPoints_of_implied (b : Block) {c : Block} (index : Option Nat) (bytes : List UInt8)
    (left : Nat) {ps qs : List Point} {stop : Nat} (start_le : c.start.toNat ≤ stop)
    (implied : ∀ p ∈ ps, p.offset = none) (length : qs.length = ps.length)
    (placed : ∀ j (p : Point), ps[j]? = some p → ∃ o : UInt16,
      qs[j]? = some { p with offset := some o } ∧ o.toNat = Layout.endOf stop (ps.take j)) :
    let before := b.readPoints index bytes left (2 * (stop - c.start.toNat)) ps
    (c.readPoints index bytes left (2 * (stop - c.start.toNat)) qs).bare = before ∧
      (before.shortfall = none →
        before.cursor = 2 * (Layout.endOf stop ps - c.start.toNat)) := by
  induction ps generalizing qs stop with
  | nil =>
    obtain rfl := List.eq_nil_of_length_eq_zero length
    exact ⟨rfl, fun _ => rfl⟩
  | cons p ps ih =>
    obtain ⟨⟨o, first, begins⟩, rest⟩ := Layout.forall_getElem?_cons.1 placed
    obtain ⟨q, qs, rfl⟩ := List.exists_cons_of_length_eq_add_one length
    obtain rfl := Option.some.inj first
    have running : p.offset = none := implied p List.mem_cons_self
    have behind : p.offsetBehind stop = stop := by rw [Point.offsetBehind, running]; rfl
    have bare : Point.bare { p with offset := some o } = p := Point.bare_of_implied running
    rw [List.take_zero, Layout.endOf_nil] at begins
    simp only [List.take_succ_cons, Layout.endOf_cons, behind] at rest ⊢
    have ih := ih (Nat.le_add_right_of_le start_le : c.start.toNat ≤ stop + p.registers)
      (fun p hp => implied p (List.mem_cons_of_mem _ hp)) (Nat.succ.inj length) rest
    unfold readPoints
    by_cases skipped : p.isSkipped = true
    · have none : p.registers = 0 := Point.registers_of_skipped skipped
      have skipped' : Point.isSkipped { p with offset := some o } = true := skipped
      rw [none, Nat.add_zero] at ih ⊢
      rw [if_pos skipped, if_pos skipped']
      obtain ⟨read, cursor⟩ := ih
      refine ⟨?_, cursor⟩
      rw [← read]
      simp only [InstanceReading.bare, List.map_cons, Reading.bare, bare]
    · have skipped' : ¬ Point.isSkipped { p with offset := some o } = true := skipped
      have position : b.positionOf p (2 * (stop - c.start.toNat)) = 2 * (stop - c.start.toNat) := by
        rw [positionOf, running]
      have position' : c.positionOf { p with offset := some o } (2 * (stop - c.start.toNat)) =
          2 * (stop - c.start.toNat) := by
        rw [Point.positionOf_of_offset rfl, Point.first_of_offset rfl, begins]
      have next : 2 * (stop - c.start.toNat) + 2 * p.registers =
          2 * (stop + p.registers - c.start.toNat) := by omega
      rw [if_neg skipped, if_neg skipped', position, position']
      dsimp only
      by_cases short : left < 2 * (stop - c.start.toNat) + p.size
      · rw [if_pos short]
        have short' : left < 2 * (stop - c.start.toNat) + Point.size { p with offset := some o } :=
          short
        rw [if_pos short']
        exact ⟨rfl, fun fits => by cases fits⟩
      · have fits : ¬ left < 2 * (stop - c.start.toNat) + Point.size { p with offset := some o } :=
          short
        obtain ⟨read, cursor⟩ := ih
        rw [← next] at read cursor
        rw [if_neg short, if_neg fits]
        refine ⟨?_, cursor⟩
        rw [← read]
        simp only [InstanceReading.bare, List.map_cons, Reading.bare, bare]
        rfl

/-- Layout writes nothing but offsets into points. -/
lemma IsLaid.points_bare {b c : Block} {start : Nat} (laid : b.IsLaid start c)
    (implied : ∀ p ∈ b.points, p.offset = none) : c.points.map Point.bare = b.points := by
  refine List.ext_getElem? fun j => ?_
  rw [List.getElem?_map]
  cases hp : b.points[j]? with
  | none =>
    have outside : c.points[j]? = none := by
      rw [List.getElem?_eq_none_iff, laid.length_points, ← List.getElem?_eq_none_iff, hp]
    rw [outside]
    rfl
  | some p =>
    obtain ⟨o, point, -⟩ := laid.point j p hp
    rw [point]
    exact congrArg some (Point.bare_of_implied (implied p (List.mem_of_getElem? hp)))

/-- Layout changes nothing in what a block without offsets reads. -/
lemma IsLaid.read_bare {b c : Block} {start : Nat} (laid : b.IsLaid start c)
    (once : b.repeating = false) (implied : ∀ p ∈ b.points, p.offset = none) (blank : b.len = 0)
    (bytes : List UInt8) : (c.read bytes).bare = b.read bytes := by
  have placed : ∀ j (p : Point), b.points[j]? = some p → ∃ o : UInt16,
      c.points[j]? = some { p with offset := some o } ∧
        o.toNat = Layout.endOf start (b.points.take j) := by
    intro j p hp
    obtain ⟨o, point, explicit | ⟨-, running⟩⟩ := laid.point j p hp
    · rw [implied p (List.mem_of_getElem? hp)] at explicit
      cases explicit
    · exact ⟨o, point, running⟩
  have points := b.readPoints_of_implied none bytes bytes.length laid.start_eq.le implied
    laid.length_points placed
  rw [laid.start_eq, Nat.sub_self, Nat.mul_zero] at points
  obtain ⟨read, cursor⟩ := points
  have unit : b.unit = 0 := by rw [Block.unit, blank]; rfl
  have unit' : c.unit = 2 * (Layout.endOf start b.points - start) := by
    rw [Block.unit, laid.len_eq, lengthAt]
  have once' : c.repeating = false := laid.repeating_eq.trans once
  rw [read_of_once once bytes, read_of_once once' bytes, ← read]
  rw [← read] at cursor
  dsimp only [InstanceReading.bare] at cursor ⊢
  cases hr : (c.readPoints none bytes bytes.length 0 c.points).shortfall with
  | some needed => rfl
  | none =>
    -- the length that layout has found ends where the fields do
    rw [unit, unit', cursor hr, Nat.max_self, Nat.zero_max]
    rfl

end Block

/-- **The running cursor agrees with the offsets of layout.**  Take a block that stands once, whose
points have no offsets, and that has not been laid out, in any model that layout accepts.  Layout
keeps the block in its place and its points up to the offsets, and from any bytes it reads what it
read before: the same values of the same points, as many bytes, and the same report where a field
does not fit. -/
theorem Model.read_before_layout {m : Model} {name : String}
    (accepted : (m.resolve name).fault = none) {k : Nat} {b : Block} (hb : m.blocks[k]? = some b)
    (once : b.repeating = false) (implied : ∀ p ∈ b.points, p.offset = none) (blank : b.len = 0) :
    ∃ c, (m.resolve name).model.blocks[k]? = some c ∧
      (∀ p ∈ c.points, p.offset ≠ none) ∧ c.points.map Point.bare = b.points ∧
      ∀ bytes, (c.read bytes).readings.map Reading.bare = (b.read bytes).readings ∧
        (c.read bytes).consumed = (b.read bytes).consumed ∧
        (c.read bytes).diagnostic = (b.read bytes).diagnostic := by
  have geometry := Model.resolve_fault_iff.1 accepted
  obtain ⟨-, blocks⟩ := Model.isLaid_of_blocksFit name geometry.toBlocksFit
  obtain ⟨c, hc, laid⟩ := blocks k b hb
  obtain ⟨first, -, -, placed⟩ :=
    (Model.laidOut_of_resolve accepted).tiled.exists_placedAt (List.mem_of_getElem? hc)
  refine ⟨c, hc, fun p hp => ?_, laid.points_bare implied, fun bytes => ?_⟩
  · obtain ⟨o, offset⟩ := placed.exists_offset hp
    rw [offset]
    exact Option.some_ne_none o
  · have same := laid.read_bare once implied blank bytes
    rw [← same]
    exact ⟨rfl, rfl, rfl⟩

/-! ### A nameplate

A string of odd length, a string of none and a point without a wire form, behind another block. -/

/-- The block in question, before layout. -/
def nameplateBlock : Block := .ofPoints [.ofEncoding "Nm" (.string 5),
  .ofEncoding "Opt" (.string 0), .ofEncoding "Pad" (.plain .null),
  .ofEncoding "W" (.plain .int32)] false

/-- A model with the block in second place. -/
def nameplate : Model :=
  .ofBlocks [.ofPoints [⟨"ID", .plain .uint16, some 7, []⟩] false, nameplateBlock]

/-- The block is read to its end, and off a slice that was cut inside its last field. -/
theorem Model.read_before_layout_nameplate :
    let bytes : List UInt8 := [0x41, 0x42, 0x43, 0x44, 0x45, 0, 0, 0, 1, 2]
    (nameplate.resolve "nameplate").fault = none ∧ nameplate.blocks[1]? = some nameplateBlock ∧
      nameplateBlock.repeating = false ∧ (∀ p ∈ nameplateBlock.points, p.offset = none) ∧
      nameplateBlock.len = 0 ∧
      ∃ c, (nameplate.resolve "nameplate").model.blocks[1]? = some c ∧
        c.points.map Point.offset = [some 8, some 11, some 11, some 11] ∧
        (c.read bytes).readings.map (fun r => (r.name, r.value.display)) =
          [("Nm", "ABCDE"), ("Opt", ""), ("Pad", "undef"), ("W", "258")] ∧
        (c.read bytes).consumed = 10 ∧ (c.read (bytes.take 9)).consumed = 6 ∧
        (c.read (bytes.take 9)).diagnostic = some (.ofFault (.truncated 10 9)) := by
  intro bytes
  have accepted : (nameplate.resolve "nameplate").fault = none := rfl
  have implied : ∀ p ∈ nameplateBlock.points, p.offset = none := by decide
  obtain ⟨c, hc, -, -, same⟩ := Model.read_before_layout accepted (k := 1) rfl rfl implied rfl
  obtain ⟨readings, whole, -⟩ := same bytes
  obtain ⟨-, cut, report⟩ := same (bytes.take 9)
  have shown : (c.read bytes).readings.map (fun r => (r.name, r.value.display)) =
      ((c.read bytes).readings.map Reading.bare).map (fun r => (r.name, r.value.display)) := by
    rw [List.map_map]
    rfl
  refine ⟨accepted, rfl, rfl, implied, rfl, c, hc, ?_, ?_, whole.trans (by decide),
    cut.trans (by decide), report.trans (by decide)⟩
  · cases hc
    decide
  · rw [shown, readings]
    decide

end SunSpec
