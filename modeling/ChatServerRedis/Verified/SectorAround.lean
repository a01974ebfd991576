import ChatServerRedis.Model.Sector
import Mathlib.Data.List.Nodup

/-! # The neighbourhood of a sector

The eight lanes of `GetSectorAround` compute what a scalar loop over unbounded
integers would: `scalarAround` is that loop, and `getSectorAround_scalar` says
that the lanes agree with it for every pair of 16-bit values.
-/

namespace ChatServerRedis

/-- The steps to the cells around a cell and to the cell itself, row by row. -/
def directions : List (Int × Int) :=
  [-1, 0, 1].flatMap fun dy => [-1, 0, 1].map fun dx => (dx, dy)

def inRange (coordinate : Int) : Prop := 0 ≤ coordinate ∧ coordinate < 50

instance (coordinate : Int) : Decidable (inRange coordinate) :=
  inferInstanceAs (Decidable (_ ∧ _))

/-- The centre and its neighbours inside the grid, row by row. -/
def scalarAround (x y : Int) : List (Int × Int) :=
  (directions.filter fun d => d = (0, 0) ∨ (inRange (x + d.1) ∧ inRange (y + d.2))).map fun d =>
    (x + d.1, y + d.2)

def SectorCell.coordinates (cell : SectorCell) : Int × Int := (cell.sectorX.toInt, cell.sectorY.toInt)

/-! ## The lanes -/

theorem appendLanes_eq (lanes : AroundLanes) (loop : List (Fin 8)) (around : List SectorCell) :
    appendLanes lanes loop around =
      around ++ (loop.filter fun i => lanes.ret.get i = 0xffff#16).map fun i =>
        ⟨lanes.X.get i, lanes.Y.get i⟩ := by
  induction loop generalizing around with
  | nil => simp [appendLanes]
  | cons lane loop inductionHypothesis =>
    simp only [appendLanes, List.foldl_cons] at inductionHypothesis ⊢
    rw [inductionHypothesis]
    by_cases selected : lanes.ret.get lane = 0xffff#16
    · have mask : lanes.ret[lane] = 0xffff#16 := selected
      rw [if_pos mask, List.filter_cons_of_pos (by simpa using selected), List.append_assoc]
      rfl
    · have mask : lanes.ret[lane] ≠ 0xffff#16 := selected
      rw [if_neg mask, List.filter_cons_of_neg (by simpa using selected)]

theorem laneMask_and (first second : Bool) :
    laneMask first &&& laneMask second = laneMask (first && second) := by
  cases first <;> cases second <;> rfl

theorem laneMask_eq (holds : Bool) : laneMask holds = 0xffff#16 ↔ holds = true := by
  cases holds <;> decide

def laneInside (coordinate : WORD) : Bool :=
  (-1#16).slt coordinate && coordinate.slt (BitVec.ofNat 16 numOfSectorVertical)

theorem laneInside_iff (coordinate : WORD) :
    laneInside coordinate = true ↔ inRange coordinate.toInt := by
  have low : (-1#16).toInt = -1 := by decide
  have high : (BitVec.ofNat 16 numOfSectorVertical).toInt = 50 := by decide
  simp only [laneInside, Bool.and_eq_true, BitVec.slt_iff_toInt_lt, low, high, inRange]
  omega

/-- A step of at most one either stays a signed 16-bit number or leaves the grid. -/
theorem toInt_step (coordinate : WORD) {d : Int} (small : -1 ≤ d ∧ d ≤ 1) :
    (inRange (coordinate + BitVec.ofInt 16 d).toInt ↔ inRange (coordinate.toInt + d)) ∧
      (inRange (coordinate.toInt + d) →
        (coordinate + BitVec.ofInt 16 d).toInt = coordinate.toInt + d) := by
  have lower := BitVec.le_toInt coordinate
  have upper := @BitVec.toInt_lt _ coordinate
  have step : (BitVec.ofInt 16 d).toInt = d := by
    rw [BitVec.toInt_ofInt, Int.bmod_def]
    split <;> omega
  rw [BitVec.toInt_add, step, Int.bmod_def]
  unfold inRange
  split <;> omega

/-- The step of lane `i`: the directions without the centre. -/
def laneStep (i : Fin 8) : Int × Int :=
  [(-1, -1), (0, -1), (1, -1), (-1, 0), (1, 0), (-1, 1), (0, 1), (1, 1)].get i

theorem directions_eq :
    directions = [0, 1, 2, 3].map laneStep ++ [(0, 0)] ++ [4, 5, 6, 7].map laneStep := by
  decide

theorem laneStep_small (i : Fin 8) : (-1 ≤ (laneStep i).1 ∧ (laneStep i).1 ≤ 1) ∧
    (-1 ≤ (laneStep i).2 ∧ (laneStep i).2 ≤ 1) ∧ laneStep i ≠ (0, 0) := by
  revert i
  decide

section Lanes

variable (sectorX sectorY : WORD) (i : Fin 8)

theorem laneX : (aroundLanes sectorX sectorY).X.get i = sectorX + BitVec.ofInt 16 (laneStep i).1 := by
  have step : ∀ i : Fin 8, (mmSetEpi16 1 0 (-1) 1 (-1) 1 0 (-1))[i.val] =
      BitVec.ofInt 16 (laneStep i).1 := by decide
  show (mmAddEpi16 (mmSet1Epi16 sectorX) (mmSetEpi16 1 0 (-1) 1 (-1) 1 0 (-1)))[i.val] = _
  simp only [mmAddEpi16, mmSet1Epi16, Vector.getElem_zipWith, Vector.getElem_replicate, step]

theorem laneY : (aroundLanes sectorX sectorY).Y.get i = sectorY + BitVec.ofInt 16 (laneStep i).2 := by
  have step : ∀ i : Fin 8, (mmSetEpi16 1 1 1 0 0 (-1) (-1) (-1))[i.val] =
      BitVec.ofInt 16 (laneStep i).2 := by decide
  show (mmAddEpi16 (mmSet1Epi16 sectorY) (mmSetEpi16 1 1 1 0 0 (-1) (-1) (-1)))[i.val] = _
  simp only [mmAddEpi16, mmSet1Epi16, Vector.getElem_zipWith, Vector.getElem_replicate, step]

theorem laneRet : (aroundLanes sectorX sectorY).ret.get i =
    laneMask (laneInside ((aroundLanes sectorX sectorY).X.get i) &&
      laneInside ((aroundLanes sectorX sectorY).Y.get i)) := by
  generalize lanes : aroundLanes sectorX sectorY = around
  have mask : around.ret = mmAndSi128
      (mmAndSi128 (mmCmpgtEpi16 around.X (mmSet1Epi16 (-1)))
        (mmCmpltEpi16 around.X (mmSet1Epi16 (BitVec.ofNat 16 numOfSectorVertical))))
      (mmAndSi128 (mmCmpgtEpi16 around.Y (mmSet1Epi16 (-1)))
        (mmCmpltEpi16 around.Y (mmSet1Epi16 (BitVec.ofNat 16 numOfSectorVertical)))) := by
    rw [← lanes]
    rfl
  show around.ret[i.val] = laneMask (laneInside around.X[i.val] && laneInside around.Y[i.val])
  simp [mask, mmAndSi128, mmCmpgtEpi16, mmCmpltEpi16, mmSet1Epi16, laneMask_and, laneInside,
    Bool.and_assoc]

end Lanes

/-- The lanes of one loop are the steps of these lanes that stay in the grid. -/
theorem lanes_scalar (sectorX sectorY : WORD) (lanes : List (Fin 8)) :
    ((lanes.filter fun i => laneMask (laneInside (sectorX + BitVec.ofInt 16 (laneStep i).1) &&
        laneInside (sectorY + BitVec.ofInt 16 (laneStep i).2)) = 0xffff#16).map fun i =>
      SectorCell.coordinates ⟨sectorX + BitVec.ofInt 16 (laneStep i).1,
        sectorY + BitVec.ofInt 16 (laneStep i).2⟩) =
    ((lanes.map laneStep).filter fun d => d = (0, 0) ∨
        (inRange (sectorX.toInt + d.1) ∧ inRange (sectorY.toInt + d.2))).map fun d =>
      (sectorX.toInt + d.1, sectorY.toInt + d.2) := by
  have inside : ∀ i, (laneMask (laneInside (sectorX + BitVec.ofInt 16 (laneStep i).1) &&
      laneInside (sectorY + BitVec.ofInt 16 (laneStep i).2)) = 0xffff#16) ↔
      inRange (sectorX.toInt + (laneStep i).1) ∧ inRange (sectorY.toInt + (laneStep i).2) := by
    intro i
    obtain ⟨smallX, smallY, _⟩ := laneStep_small i
    rw [laneMask_eq, Bool.and_eq_true, laneInside_iff, laneInside_iff, (toInt_step _ smallX).1,
      (toInt_step _ smallY).1]
  -- a selected lane stays in the grid, where the lane arithmetic does not wrap
  simp only [inside, List.filter_map, List.map_map, Function.comp_def, (laneStep_small _).2.2, false_or]
  refine List.map_congr_left fun i selected => ?_
  obtain ⟨smallX, smallY, _⟩ := laneStep_small i
  have stays := of_decide_eq_true (List.mem_filter.mp selected).2
  simp only [SectorCell.coordinates, (toInt_step _ smallX).2 stays.1, (toInt_step _ smallY).2 stays.2]

theorem appendLanes_scalar (sectorX sectorY : WORD) (loop : List (Fin 8)) (around : List SectorCell) :
    (appendLanes (aroundLanes sectorX sectorY) loop around).map SectorCell.coordinates =
      around.map SectorCell.coordinates ++
        ((loop.map laneStep).filter fun d => d = (0, 0) ∨
          (inRange (sectorX.toInt + d.1) ∧ inRange (sectorY.toInt + d.2))).map fun d =>
            (sectorX.toInt + d.1, sectorY.toInt + d.2) := by
  simp only [appendLanes_eq, laneRet, laneX, laneY, List.map_append, List.map_map, Function.comp_def,
    lanes_scalar]

/-- The lanes agree with the scalar loop for every pair of 16-bit values. -/
theorem getSectorAround_scalar (sectorX sectorY : WORD) :
    (getSectorAround sectorX sectorY).map SectorCell.coordinates =
      scalarAround sectorX.toInt sectorY.toInt := by
  rw [scalarAround, directions_eq, List.filter_append, List.filter_append, List.map_append,
    List.map_append, getSectorAround, appendLanes_scalar, List.map_append, appendLanes_scalar]
  simp [SectorCell.coordinates]

/-! ## The cells of the neighbourhood -/

theorem scalarAround_nodup (x y : Int) : (scalarAround x y).Nodup := by
  have distinct : directions.Nodup := by decide
  refine (distinct.filter _).map fun first second same => ?_
  simp only [Prod.mk.injEq] at same
  exact Prod.ext (by omega) (by omega)

theorem mem_directions (d : Int × Int) :
    d ∈ directions ↔ (-1 ≤ d.1 ∧ d.1 ≤ 1) ∧ (-1 ≤ d.2 ∧ d.2 ≤ 1) := by
  obtain ⟨dx, dy⟩ := d
  simp only [directions, List.mem_flatMap, List.mem_map, List.mem_cons, List.not_mem_nil, or_false,
    Prod.mk.injEq]
  constructor
  · rintro ⟨_, rowCase, _, columnCase, rfl, rfl⟩
    omega
  · rintro ⟨column, row⟩
    exact ⟨dy, by omega, dx, by omega, rfl, rfl⟩

theorem mem_scalarAround {x y : Int} (insideX : inRange x) (insideY : inRange y) (x' y' : Int) :
    (x', y') ∈ scalarAround x y ↔
      ((x' - x).natAbs ≤ 1 ∧ (y' - y).natAbs ≤ 1) ∧ inRange x' ∧ inRange y' := by
  simp only [scalarAround, List.mem_map, List.mem_filter, decide_eq_true_eq, mem_directions,
    Prod.mk.injEq, Prod.exists, inRange] at *
  constructor
  · rintro ⟨dx, dy, ⟨small, ⟨rfl, rfl⟩ | inside⟩, rfl, rfl⟩ <;> omega
  · rintro ⟨small, inside⟩
    exact ⟨x' - x, y' - y, ⟨by omega, .inr (by omega)⟩, by omega, by omega⟩

theorem coordinates_injective : Function.Injective SectorCell.coordinates := by
  rintro ⟨firstX, firstY⟩ ⟨secondX, secondY⟩ same
  simp only [SectorCell.coordinates, Prod.mk.injEq, BitVec.toInt_inj] at same
  rw [same.1, same.2]

theorem getSectorAround_nodup (sectorX sectorY : WORD) : (getSectorAround sectorX sectorY).Nodup := by
  refine List.Nodup.of_map SectorCell.coordinates ?_
  rw [getSectorAround_scalar]
  exact scalarAround_nodup _ _

theorem center_mem_getSectorAround (sectorX sectorY : WORD) :
    ⟨sectorX, sectorY⟩ ∈ getSectorAround sectorX sectorY := by
  rw [getSectorAround, appendLanes_eq]
  exact List.mem_append_left _ (List.mem_append_right _ List.mem_cons_self)

/-! ## The buffer of the caller -/

namespace SectorAround

variable {out : SectorAround}

theorem cells_length (fits : out.sectorCount.toNat ≤ 9) : out.cells.length = out.sectorCount.toNat := by
  simp only [cells, List.length_take, Vector.length_toList]
  omega

theorem store_sectorCount (room : out.sectorCount.toNat < 9) (cell : SectorCell) :
    (out.store cell).sectorCount.toNat = out.sectorCount.toNat + 1 := by
  have small : (out.sectorCount.toNat + 1) % 256 = out.sectorCount.toNat + 1 := by omega
  simp only [store, BitVec.toNat_add]
  exact small

theorem store_cells (room : out.sectorCount.toNat < 9) (cell : SectorCell) :
    (out.store cell).cells = out.cells ++ [cell] := by
  have inside : out.sectorCount.toNat < out.around.toList.length := by simpa using room
  have count := store_sectorCount room cell
  simp only [cells, count]
  simp only [store, Vector.toList_setIfInBounds, List.take_add_one, List.take_set_of_le (Nat.le_refl _),
    List.getElem?_set_self inside, Option.toList_some]

theorem storeLanes_cells (lanes : AroundLanes) (loop : List (Fin 8))
    (room : out.sectorCount.toNat + loop.length ≤ 9) :
    (out.storeLanes lanes loop).cells = appendLanes lanes loop out.cells ∧
      (out.storeLanes lanes loop).sectorCount.toNat ≤ out.sectorCount.toNat + loop.length := by
  induction loop generalizing out with
  | nil => exact ⟨rfl, Nat.le_refl _⟩
  | cons lane loop inductionHypothesis =>
    rw [List.length_cons] at room
    simp only [storeLanes, appendLanes, List.foldl_cons, List.length_cons] at inductionHypothesis ⊢
    by_cases selected : lanes.ret[lane] = 0xffff#16
    · have free : out.sectorCount.toNat < 9 := by omega
      have count := store_sectorCount free ⟨lanes.X[lane], lanes.Y[lane]⟩
      rw [if_pos selected, if_pos selected, ← store_cells free]
      obtain ⟨same, bound⟩ := @inductionHypothesis (out.store ⟨lanes.X[lane], lanes.Y[lane]⟩) (by omega)
      exact ⟨same, by omega⟩
    · rw [if_neg selected, if_neg selected]
      obtain ⟨same, bound⟩ := @inductionHypothesis out (by omega)
      exact ⟨same, by omega⟩

/-- Four lanes, the centre and four lanes fit into the nine entries. -/
theorem loops_cells (lanes : AroundLanes) (center : SectorCell) (start : out.sectorCount = 0) :
    (((out.storeLanes lanes [0, 1, 2, 3]).store center).storeLanes lanes [4, 5, 6, 7]).cells =
        appendLanes lanes [4, 5, 6, 7] (appendLanes lanes [0, 1, 2, 3] [] ++ [center]) ∧
      (((out.storeLanes lanes [0, 1, 2, 3]).store center).storeLanes lanes [4, 5, 6, 7]).sectorCount.toNat
        ≤ 9 := by
  have count : out.sectorCount.toNat = 0 := by rw [start]; rfl
  have empty : out.cells = [] := by rw [cells, count, List.take_zero]
  obtain ⟨upper, upperCount⟩ := @storeLanes_cells out lanes [0, 1, 2, 3] (by simp [count])
  simp only [List.length_cons, List.length_nil, count] at upperCount
  have free : (out.storeLanes lanes [0, 1, 2, 3]).sectorCount.toNat < 9 := by omega
  have middle := store_cells free center
  have middleCount := store_sectorCount free center
  obtain ⟨lower, lowerCount⟩ :=
    @storeLanes_cells ((out.storeLanes lanes [0, 1, 2, 3]).store center) lanes [4, 5, 6, 7]
      (by simp; omega)
  simp only [List.length_cons, List.length_nil] at lowerCount
  exact ⟨by rw [lower, middle, upper, empty], by omega⟩

end SectorAround

theorem storeSectorAround_cells (sectorX sectorY : WORD) (pOutSectorAround : SectorAround) :
    (storeSectorAround sectorX sectorY pOutSectorAround).cells = getSectorAround sectorX sectorY ∧
      (storeSectorAround sectorX sectorY pOutSectorAround).sectorCount.toNat ≤ 9 :=
  SectorAround.loops_cells _ _ rfl

/-- `GetSectorAround` writes the cells of the scalar loop, in its order and once
    each, for every pair of signed 16-bit values; `sectorCount` is their number. -/
theorem storeSectorAround_scalar (sectorX sectorY : WORD) (pOutSectorAround : SectorAround) :
    let out := storeSectorAround sectorX sectorY pOutSectorAround
    out.cells.map SectorCell.coordinates = scalarAround sectorX.toInt sectorY.toInt ∧
    out.sectorCount.toNat = (scalarAround sectorX.toInt sectorY.toInt).length ∧
    out.sectorCount.toNat ≤ 9 ∧ out.cells.Nodup := by
  intro out
  obtain ⟨same, bound⟩ := storeSectorAround_cells sectorX sectorY pOutSectorAround
  have scalar : out.cells.map SectorCell.coordinates = scalarAround sectorX.toInt sectorY.toInt := by
    rw [same, getSectorAround_scalar]
  have count : out.sectorCount.toNat = (scalarAround sectorX.toInt sectorY.toInt).length := by
    rw [← scalar, List.length_map, SectorAround.cells_length bound]
  have distinct : out.cells.Nodup := by
    rw [same]
    exact getSectorAround_nodup sectorX sectorY
  exact ⟨scalar, count, bound, distinct⟩

/-- At the highest 16-bit value the right neighbours wrap to the first column, which
    the scalar loop does not reach. -/
example : (getSectorAround 32767 0).map SectorCell.coordinates = [(32767, 0)] := by
  decide +kernel

def near (first second : WORD) : Prop := ((first.toNat : Int) - second.toNat).natAbs ≤ 1

theorem inRange_toInt (coordinate : WORD) : inRange coordinate.toInt ↔ coordinate.toNat < 50 := by
  unfold inRange
  rw [BitVec.toInt_eq_toNat_cond]
  split <;> omega

/-- Only the centre can lie outside the grid. -/
theorem inGrid_of_mem_getSectorAround {sectorX sectorY : WORD} {cell : SectorCell}
    (member : cell ∈ getSectorAround sectorX sectorY) :
    cell = ⟨sectorX, sectorY⟩ ∨ (cell.sectorX.toNat < 50 ∧ cell.sectorY.toNat < 50) := by
  have listed : cell.coordinates ∈ scalarAround sectorX.toInt sectorY.toInt := by
    rw [← getSectorAround_scalar]
    exact List.mem_map_of_mem member
  simp only [scalarAround, List.mem_map, List.mem_filter, decide_eq_true_eq] at listed
  obtain ⟨d, ⟨_, chosen⟩, same⟩ := listed
  cases chosen with
  | inl still =>
    left
    apply coordinates_injective
    rw [← same, still]
    simp [SectorCell.coordinates]
  | inr inside =>
    right
    simp only [SectorCell.coordinates, Prod.mk.injEq] at same
    rw [same.1, same.2] at inside
    exact ⟨(inRange_toInt _).mp inside.1, (inRange_toInt _).mp inside.2⟩

/-- The cells around a cell of the grid are the near cells of the grid. -/
theorem mem_getSectorAround {sectorX sectorY : WORD} (insideX : sectorX.toNat < 50)
    (insideY : sectorY.toNat < 50) (cell : SectorCell) :
    cell ∈ getSectorAround sectorX sectorY ↔ (near cell.sectorX sectorX ∧ near cell.sectorY sectorY) ∧
      cell.sectorX.toNat < 50 ∧ cell.sectorY.toNat < 50 := by
  rw [← List.mem_map_of_injective coordinates_injective, getSectorAround_scalar,
    SectorCell.coordinates, mem_scalarAround ((inRange_toInt _).mpr insideX)
      ((inRange_toInt _).mpr insideY), inRange_toInt, inRange_toInt]
  refine and_congr_left fun inside => ?_
  have toNat : ∀ coordinate : WORD, coordinate.toNat < 50 →
      coordinate.toInt = (coordinate.toNat : Int) :=
    fun coordinate bound => BitVec.toInt_eq_toNat_of_lt (by omega)
  rw [toNat _ inside.1, toNat _ inside.2, toNat _ insideX, toNat _ insideY]
  rfl

end ChatServerRedis
