import SunSpec.Proofs.Geometry

/-!
# Laying a model out again

A layout pass writes offsets into points and starts and lengths into blocks, up to the fault that
stops it, if one does.  A second pass over what the first has left finds explicit offsets where the
first had its running offset, and makes of them what the first made, remarks and faults included:
`Layout.placePoints_again`, `Layout.placeBlocks_again` and, for the whole model,
`Model.resolve_again`.

Starts and lengths are written and never read, so an accepted pass depends on nothing but points
and repeating flags (`Model.resolve_congr`); and of a point a pass changes nothing but the offset
(`Model.points_resolve`).
-/

namespace SunSpec

namespace Layout

variable {model : String} {start counter : Nat}

/-- A point that was placed stays where it is. -/
lemma placePoint_again {p : Point} {placed : Placed} (le : start ≤ counter)
    (h : placePoint model start counter p = .ok placed) :
    placePoint model start counter placed.point = .ok placed := by
  cases hp : p.offset with
  | some o =>
    have same : placed.point = p := by
      unfold placePoint at h
      simp only [hp] at h
      split at h
      · cases h
      · cases h
        rfl
    rw [same, h]
  | none =>
    unfold placePoint at h
    simp only [hp] at h
    cases hr : register model counter with
    | error f => simp [hr, Except.map] at h
    | ok o =>
      have running : o.toNat = counter := toNat_of_register hr
      simp only [hr, Except.map, Except.ok.injEq] at h
      subst h
      unfold placePoint
      simp only [running, if_neg (Nat.not_lt.2 le), if_pos]
      rfl

lemma start_le_next {p : Point} {placed : Placed} (le : start ≤ counter)
    (h : placePoint model start counter p = .ok placed) : start ≤ placed.next := by
  obtain ⟨o, -, next, ⟨-, start_le⟩ | ⟨-, running⟩⟩ := placePoint_ok h
  · omega
  · omega

/-- Points that a pass has left are passed as they were the first time, also where it stopped. -/
lemma placePoints_again (model : String) (ps : List Point) (le : start ≤ counter) :
    placePoints model start counter (placePoints model start counter ps).items =
      placePoints model start counter ps := by
  induction ps generalizing counter with
  | nil => rfl
  | cons p ps ih =>
    cases hp : placePoint model start counter p with
    | error f => simp only [placePoints, hp]
    | ok placed =>
      have again := placePoint_again le hp
      have rest := ih (start_le_next le hp)
      simp only [placePoints, hp, again, rest]

/-- A block that a pass has left is passed as it was the first time. -/
lemma placeBlock_again (model : String) (counter : Nat) (b : Block) :
    placeBlock model counter (placeBlock model counter b).block = placeBlock model counter b := by
  have points := placePoints_again model b.points (le_refl counter)
  cases hs : register model counter with
  | error f => simp only [placeBlock, hs]
  | ok start =>
    cases hf : (placePoints model counter counter b.points).fault with
    | some f => simp only [placeBlock, hs, hf, points]
    | none =>
      cases hl : register model ((placePoints model counter counter b.points).next - counter) with
      | error f => simp only [placeBlock, hs, hf, hl, points]
      | ok len => simp only [placeBlock, hs, hf, hl, points]

lemma placeBlocks_again (model : String) (counter : Nat) (bs : List Block) :
    placeBlocks model counter (placeBlocks model counter bs).items =
      placeBlocks model counter bs := by
  induction bs generalizing counter with
  | nil => rfl
  | cons b bs ih =>
    have head := placeBlock_again model counter b
    cases hb : (placeBlock model counter b).fault with
    | some f => simp only [placeBlocks, hb, head]
    | none =>
      have rest := ih (placeBlock model counter b).next
      simp only [placeBlocks, hb, head, rest]

/-! ## What an accepted pass depends on -/

lemma placeBlock_congr {b c : Block} (points : c.points = b.points)
    (repeating : c.repeating = b.repeating) (accepted : (placeBlock model counter b).fault = none) :
    placeBlock model counter c = placeBlock model counter b := by
  unfold placeBlock at accepted ⊢
  rw [points]
  cases hs : register model counter with
  | error f => simp [hs] at accepted
  | ok start =>
    cases hf : (placePoints model counter counter b.points).fault with
    | some f => simp [hs, hf] at accepted
    | none =>
      cases hl : register model ((placePoints model counter counter b.points).next - counter) with
      | error f => simp [hs, hf, hl] at accepted
      | ok len => simp only [hf, hl, repeating]

end Layout

/-- The part of a block that layout reads. -/
def Block.content (b : Block) : Bool × List Point := (b.repeating, b.points)

namespace Layout

variable {model : String} {counter : Nat}

lemma placeBlocks_congr {bs cs : List Block} (same : cs.map Block.content = bs.map Block.content)
    (accepted : (placeBlocks model counter bs).fault = none) :
    placeBlocks model counter cs = placeBlocks model counter bs := by
  induction bs generalizing counter cs with
  | nil =>
    rw [List.map_nil, List.map_eq_nil_iff] at same
    rw [same]
  | cons b bs ih =>
    obtain ⟨c, cs, rfl, content, rest⟩ := List.map_eq_cons_iff.1 same
    obtain ⟨repeating, points⟩ := Prod.mk.inj content
    unfold placeBlocks at accepted ⊢
    cases hb : (placeBlock model counter b).fault with
    | some f => simp [hb] at accepted
    | none =>
      simp only [hb] at accepted
      simp only [placeBlock_congr points repeating hb, hb, ih rest accepted]

lemma misplaced?_congr {bs cs : List Block} (same : cs.map (·.repeating) = bs.map (·.repeating)) :
    misplaced? cs = misplaced? bs := by
  have flags : ∀ bs : List Block,
      misplaced? bs = (bs.map (·.repeating)).dropLast.findIdx? id := by
    intro bs
    rw [misplaced?, ← List.map_dropLast, List.findIdx?_map]
    rfl
  rw [flags, flags, same]

lemma repeating_placeBlock (model : String) (counter : Nat) (b : Block) :
    (placeBlock model counter b).block.repeating = b.repeating := by
  unfold placeBlock
  cases register model counter with
  | error f => rfl
  | ok start =>
    cases hf : (placePoints model counter counter b.points).fault with
    | some f => simp only [hf]
    | none =>
      cases hl : register model ((placePoints model counter counter b.points).next - counter) with
      | error f => simp only [hf, hl]
      | ok len => simp only [hf, hl]

lemma repeating_placeBlocks (model : String) (counter : Nat) (bs : List Block) :
    (placeBlocks model counter bs).items.map (·.repeating) = bs.map (·.repeating) := by
  induction bs generalizing counter with
  | nil => rfl
  | cons b bs ih =>
    have head := repeating_placeBlock model counter b
    cases hb : (placeBlock model counter b).fault with
    | some f => simp only [placeBlocks, hb, List.map_cons, head]
    | none => simp only [placeBlocks, hb, List.map_cons, head, ih]

end Layout

/-! ## What a pass changes -/

/-- A point without its offset. -/
def Point.bare (p : Point) : Point := { p with offset := none }

namespace Layout

variable {model : String}

lemma bare_placePoint {start counter : Nat} {p : Point} {placed : Placed}
    (h : placePoint model start counter p = .ok placed) : placed.point.bare = p.bare := by
  obtain ⟨o, point, -⟩ := placePoint_ok h
  rw [point]
  rfl

lemma bare_placePoints (model : String) (start counter : Nat) (ps : List Point) :
    (placePoints model start counter ps).items.map Point.bare = ps.map Point.bare := by
  induction ps generalizing counter with
  | nil => rfl
  | cons p ps ih =>
    cases hp : placePoint model start counter p with
    | error f => simp only [placePoints, hp]
    | ok placed => simp only [placePoints, hp, List.map_cons, bare_placePoint hp, ih]

lemma bare_placeBlock (model : String) (counter : Nat) (b : Block) :
    (placeBlock model counter b).block.points.map Point.bare = b.points.map Point.bare := by
  have points := bare_placePoints model counter counter b.points
  unfold placeBlock
  cases register model counter with
  | error f => rfl
  | ok start =>
    cases hf : (placePoints model counter counter b.points).fault with
    | some f => simp only [hf, points]
    | none =>
      cases hl : register model ((placePoints model counter counter b.points).next - counter) with
      | error f => simp only [hf, hl, points]
      | ok len => simp only [hf, hl, points]

lemma bare_placeBlocks (model : String) (counter : Nat) (bs : List Block) :
    ((placeBlocks model counter bs).items.flatMap (·.points)).map Point.bare =
      (bs.flatMap (·.points)).map Point.bare := by
  induction bs generalizing counter with
  | nil => rfl
  | cons b bs ih =>
    have head := bare_placeBlock model counter b
    cases hb : (placeBlock model counter b).fault with
    | some f => simp only [placeBlocks, hb, List.flatMap_cons, List.map_append, head]
    | none => simp only [placeBlocks, hb, List.flatMap_cons, List.map_append, head, ih]

end Layout

/-! ## Models -/

namespace Model

open Layout

/-- The points of a model keep everything but their offsets. -/
theorem points_resolve (name : String) (m : Model) :
    (m.resolve name).model.points.map Point.bare = m.points.map Point.bare := by
  have placed := bare_placeBlocks name firstDataOffset m.blocks
  unfold resolve points
  cases misplaced? m.blocks with
  | some k => rfl
  | none =>
    cases hp : (placeBlocks name firstDataOffset m.blocks).fault with
    | some f => simp only [hp, placed]
    | none =>
      cases hb : register name (totalLen
          ((placeBlocks name firstDataOffset m.blocks).items.filter (!·.repeating))) with
      | error f => simp only [hp, hb, placed]
      | ok baseLen =>
        cases hl : register name
            (totalLen (placeBlocks name firstDataOffset m.blocks).items) with
        | error f => simp only [hp, hb, hl, placed]
        | ok len => simp only [hp, hb, hl, placed]

/-- A second layout makes of a model what the first one made of it, whatever that was. -/
theorem resolve_again (name : String) (m : Model) :
    (m.resolve name).model.resolve name = m.resolve name := by
  cases hm : misplaced? m.blocks with
  | some k => simp only [resolve, hm]
  | none =>
    have flags := repeating_placeBlocks name firstDataOffset m.blocks
    have placed := misplaced?_congr flags
    rw [hm] at placed
    have again := placeBlocks_again name firstDataOffset m.blocks
    cases hp : (placeBlocks name firstDataOffset m.blocks).fault with
    | some f => simp only [resolve, hm, hp, placed, again]
    | none =>
      cases hb : register name (totalLen
          ((placeBlocks name firstDataOffset m.blocks).items.filter (!·.repeating))) with
      | error f => simp only [resolve, hm, hp, hb, placed, again]
      | ok baseLen =>
        cases hl : register name
            (totalLen (placeBlocks name firstDataOffset m.blocks).items) with
        | error f => simp only [resolve, hm, hp, hb, hl, placed, again]
        | ok len => simp only [resolve, hm, hp, hb, hl, placed, again]

/-- **A second layout changes nothing, whether the first one was accepted or not.**  It comes to
the same result, which is the same warnings in the same order or the same fault, and leaves every
offset, start and length of the model as the first layout left it. -/
theorem resolve_idempotent (name : String) (m : Model) :
    let first := m.resolve name
    let second := first.model.resolve name
    second.result = first.result ∧ second.model = first.model := by
  intro first second
  have again : second = first := resolve_again name m
  exact ⟨congrArg Resolution.result again, congrArg Resolution.model again⟩

/-- A layout that stops at its third point has given the first one an offset and the block a start,
but no length. -/
example :
    let early : Model := .ofBlocks [.ofPoints [.ofEncoding "A" (.string 3),
      .ofEncoding "B" (.plain .uint16), ⟨"C", .plain .uint16, some 2, []⟩] false]
    let left : Model := ⟨[⟨[⟨"A", .string 3, some 3, []⟩, ⟨"B", .plain .uint16, some 5, []⟩,
      ⟨"C", .plain .uint16, some 2, []⟩], false, 0, 3⟩], 0, 0⟩
    (early.resolve "early").model = left ∧ (left.resolve "early").model = left ∧
      (left.resolve "early").result = .error (.offsetBeforeBlock "early" "C" 2 3) := by
  decide

/-- Layout accepts models with the same points in the same blocks with the same result. -/
theorem resolve_congr (name : String) {m n : Model}
    (same : n.blocks.map Block.content = m.blocks.map Block.content)
    (accepted : (m.resolve name).fault = none) : n.resolve name = m.resolve name := by
  have flags : n.blocks.map (·.repeating) = m.blocks.map (·.repeating) := by
    have firsts := congrArg (List.map Prod.fst) same
    rwa [List.map_map, List.map_map] at firsts
  unfold resolve at accepted ⊢
  rw [misplaced?_congr flags]
  cases hm : misplaced? m.blocks with
  | some k => simp [hm] at accepted
  | none =>
    cases hp : (placeBlocks name firstDataOffset m.blocks).fault with
    | some f => simp [hm, hp] at accepted
    | none =>
      simp only [hm, hp] at accepted
      simp only [placeBlocks_congr same hp, hp]
      cases hb : register name (totalLen
          ((placeBlocks name firstDataOffset m.blocks).items.filter (!·.repeating))) with
      | error f => simp [hb] at accepted
      | ok baseLen =>
        cases hl : register name
            (totalLen (placeBlocks name firstDataOffset m.blocks).items) with
        | error f => simp [hb, hl] at accepted
        | ok len => rfl

end Model

end SunSpec
