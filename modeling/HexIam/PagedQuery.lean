import Mathlib.Data.List.Sort
import Mathlib.Data.List.Perm.Basic
import Mathlib.Order.Lattice
import Mathlib.Tactic.Common

/-!
# Pages of an ordered query

A listing with `LIMIT` and `OFFSET` cuts windows of one size out of its rows.
Windows of one list put it together again.  A database that only promises to
sort by a key may arrange rows of one key differently in each query, and then
the windows are those of different lists: they put the rows together for every
arrangement just when no two rows of one key are split by the end of a page.
-/

namespace PagedQuery

variable {Row Key : Type}

/-! ## Windows of one list -/

/-- `LIMIT` and `OFFSET`. -/
def window (rows : List Row) (offset limit : Nat) : List Row :=
  (rows.drop offset).take limit

/-- The windows of the first `count` pages, each of its own list. -/
def pages (lists : Nat → List Row) (size count : Nat) : List Row :=
  (List.range count).flatMap fun index => window (lists index) (index * size) size

/-- The number of pages of a length. -/
def pageCount (total size : Nat) : Nat :=
  (total + size - 1) / size

theorem pages_zero (lists : Nat → List Row) (size : Nat) :
    pages lists size 0 = [] :=
  rfl

theorem pages_succ (lists : Nat → List Row) (size count : Nat) :
    pages lists size (count + 1) =
      pages lists size count ++ window (lists count) (count * size) size := by
  simp [pages, List.range_succ]

theorem take_append_window (rows : List Row) (offset limit : Nat) :
    rows.take offset ++ window rows offset limit = rows.take (offset + limit) := by
  rw [window, List.take_add]

theorem pages_const (rows : List Row) (size count : Nat) :
    pages (fun _ => rows) size count = rows.take (count * size) := by
  induction count with
  | zero => simp [pages_zero]
  | succ count ih => rw [pages_succ, ih, take_append_window, Nat.succ_mul]

theorem le_pageCount_mul {total size : Nat} (positive : 0 < size) :
    total ≤ pageCount total size * size := by
  have split := Nat.div_add_mod (total + size - 1) size
  have small := Nat.mod_lt (total + size - 1) positive
  rw [pageCount, Nat.mul_comm]
  omega

/-- Every page before the last is full before the end of the list. -/
theorem mul_lt_of_lt_pageCount {total size index : Nat}
    (before : index < pageCount total size) : index * size < total := by
  rcases Nat.eq_zero_or_pos size with rfl | positive
  · simp [pageCount] at before
  · have full := Nat.mul_le_of_le_div size (index + 1) _ before
    rw [Nat.succ_mul] at full
    omega

theorem length_window (rows : List Row) (offset limit : Nat) :
    (window rows offset limit).length = min limit (rows.length - offset) := by
  simp [window]

/-! ## Arrangements -/

section Order

variable [LinearOrder Key] {key : Row → Key} {rows answer other : List Row}

/-- An answer has the rows, those of greater keys first. -/
structure Ordered (key : Row → Key) (rows answer : List Row) : Prop where
  perm : answer.Perm rows
  sorted : answer.Pairwise fun first second => key second ≤ key first

/-- `ORDER BY key DESC`, with the rows of one key in the order of their
ranks. -/
def arrange (rank : Row → Nat) (key : Row → Key) (rows : List Row) : List Row :=
  rows.mergeSort fun first second =>
    key second < key first || key first = key second && rank first ≤ rank second

theorem arrange_perm (rank : Row → Nat) (key : Row → Key) (rows : List Row) :
    (arrange rank key rows).Perm rows :=
  List.mergeSort_perm _ _

theorem arrange_pairwise (rank : Row → Nat) (key : Row → Key) (rows : List Row) :
    (arrange rank key rows).Pairwise fun first second =>
      key second < key first ∨ key first = key second ∧ rank first ≤ rank second := by
  have sorted := @List.pairwise_mergeSort _ (fun first second =>
    key second < key first || key first = key second && rank first ≤ rank second)
    ?trans ?total rows
  case trans =>
    intro first second third
    simp only [Bool.or_eq_true, Bool.and_eq_true, decide_eq_true_eq]
    rintro (firstLt | ⟨firstEq, firstLe⟩) (secondLt | ⟨secondEq, secondLe⟩)
    · exact .inl (secondLt.trans firstLt)
    · exact .inl (secondEq ▸ firstLt)
    · exact .inl (firstEq ▸ secondLt)
    · exact .inr ⟨firstEq.trans secondEq, firstLe.trans secondLe⟩
  case total =>
    intro first second
    simp only [Bool.or_eq_true, Bool.and_eq_true, decide_eq_true_eq]
    rcases lt_trichotomy (key first) (key second) with less | same | greater
    · exact .inr (.inl less)
    · rcases Nat.le_total (rank first) (rank second) with le | le
      · exact .inl (.inr ⟨same, le⟩)
      · exact .inr (.inr ⟨same.symm, le⟩)
    · exact .inl (.inl greater)
  simpa [arrange] using sorted

/-- Whatever the ranks, the arrangement is in the order of the keys. -/
theorem arrange_ordered (rank : Row → Nat) (key : Row → Key) (rows : List Row) :
    Ordered key rows (arrange rank key rows) where
  perm := arrange_perm rank key rows
  sorted := (arrange_pairwise rank key rows).imp fun ordered =>
    ordered.elim le_of_lt fun same => same.1.symm.le

theorem not_after {rank : Row → Nat} {first second : Row}
    (strict : key second < key first ∨
      key first = key second ∧ rank first < rank second)
    (back : key first < key second ∨
      key second = key first ∧ rank second ≤ rank first) : False := by
  rcases strict with less | ⟨same, rankLess⟩
  · rcases back with greater | ⟨same, -⟩
    · exact lt_asymm less greater
    · exact absurd less (same ▸ lt_irrefl _)
  · rcases back with greater | ⟨-, rankGe⟩
    · exact absurd greater (same ▸ lt_irrefl _)
    · omega

theorem arrange_eq {rank : Row → Nat} (perm : answer.Perm rows)
    (strict : answer.Pairwise fun first second =>
      key second < key first ∨ key first = key second ∧ rank first < rank second) :
    arrange rank key rows = answer := by
  refine List.Perm.eq_of_pairwise ?antisymm (arrange_pairwise rank key rows) ?weak
    ((arrange_perm rank key rows).trans perm.symm)
  case weak => exact strict.imp (Or.imp_right (And.imp_right Nat.le_of_lt))
  case antisymm =>
    intro first second firstMem secondMem before after
    have firstIn : first ∈ answer :=
      perm.mem_iff.mpr ((arrange_perm rank key rows).mem_iff.mp firstMem)
    obtain ⟨firstIndex, firstBound, rfl⟩ := List.mem_iff_getElem.mp firstIn
    obtain ⟨secondIndex, secondBound, rfl⟩ := List.mem_iff_getElem.mp secondMem
    have strictly := List.pairwise_iff_getElem.mp strict
    rcases Nat.lt_trichotomy firstIndex secondIndex with less | rfl | greater
    · exact (not_after (strictly _ _ firstBound secondBound less) after).elim
    · rfl
    · exact (not_after (strictly _ _ secondBound firstBound greater) before).elim

/-- Every answer in the order of the keys comes from some ranks. -/
theorem exists_rank (ordered : Ordered key rows answer) (distinct : rows.Nodup) :
    ∃ rank, arrange rank key rows = answer := by
  classical
  have answerDistinct : answer.Nodup := ordered.perm.nodup_iff.mpr distinct
  refine ⟨fun row => answer.idxOf row, arrange_eq ordered.perm ?_⟩
  rw [List.pairwise_iff_getElem]
  intro firstIndex secondIndex firstBound secondBound before
  have keyLe := List.pairwise_iff_getElem.mp ordered.sorted _ _ firstBound
    secondBound before
  rcases keyLe.lt_or_eq with less | same
  · exact .inl less
  · refine .inr ⟨same.symm, ?_⟩
    rw [answerDistinct.idxOf_getElem, answerDistinct.idxOf_getElem]
    exact before

/-! ## The order of the keys -/

/-- The keys of every answer, in its order. -/
def descending (key : Row → Key) (rows : List Row) : List Key :=
  (rows.map key).mergeSort fun first second => second ≤ first

theorem descending_pairwise (key : Row → Key) (rows : List Row) :
    (descending key rows).Pairwise fun first second => second ≤ first := by
  have sorted := @List.pairwise_mergeSort _
    (fun first second : Key => decide (second ≤ first)) ?trans ?total (rows.map key)
  case trans =>
    intro first second third
    simp only [decide_eq_true_eq]
    exact fun secondLe thirdLe => thirdLe.trans secondLe
  case total =>
    intro first second
    simp only [Bool.or_eq_true, decide_eq_true_eq]
    exact le_total second first
  simpa [descending] using sorted

theorem map_key_of_ordered (ordered : Ordered key rows answer) :
    answer.map key = descending key rows := by
  refine List.Perm.eq_of_pairwise (fun _ _ _ _ => ge_antisymm)
    (List.pairwise_map.mpr ordered.sorted) (descending_pairwise key rows) ?_
  exact (ordered.perm.map key).trans (List.mergeSort_perm _ _).symm

/-- The sorted keys differ where a list is cut. -/
def CutsAt (key : Row → Key) (rows : List Row) (index : Nat) : Prop :=
  ∀ last next, 0 < index → (descending key rows)[index - 1]? = some last →
    (descending key rows)[index]? = some next → last ≠ next

/-- No two rows of one key are split by the end of a page. -/
def Separated (key : Row → Key) (size : Nat) (rows : List Row) : Prop :=
  ∀ page, CutsAt key rows (page * size)

/-! ## Enough -/

theorem take_eq_filter (ordered : Ordered key rows answer) {index : Nat}
    {last next : Key} (positive : 0 < index)
    (lastEq : (descending key rows)[index - 1]? = some last)
    (nextEq : (descending key rows)[index]? = some next) (differ : last ≠ next) :
    answer.take index = answer.filter fun row => last ≤ key row := by
  rw [← map_key_of_ordered ordered] at lastEq nextEq
  obtain ⟨lastBound, lastEq⟩ := List.getElem?_eq_some_iff.mp lastEq
  obtain ⟨nextBound, nextEq⟩ := List.getElem?_eq_some_iff.mp nextEq
  rw [List.getElem_map] at lastEq nextEq
  rw [List.length_map] at lastBound nextBound
  have keyLe := List.pairwise_iff_getElem.mp ordered.sorted
  have less : next < last := by
    have le := keyLe (index - 1) index lastBound nextBound (by omega)
    rw [lastEq, nextEq] at le
    exact lt_of_le_of_ne le differ.symm
  have front : (answer.take index).filter (fun row => last ≤ key row) =
      answer.take index := by
    rw [List.filter_eq_self]
    intro row rowMem
    obtain ⟨position, bound, rfl⟩ := List.mem_iff_getElem.mp rowMem
    rw [List.length_take] at bound
    rw [List.getElem_take, decide_eq_true_eq, ← lastEq]
    rcases Nat.lt_or_ge position (index - 1) with before | here
    · exact keyLe position (index - 1) (by omega) lastBound before
    · have same : position = index - 1 := by omega
      simp [same]
  have back : (answer.drop index).filter (fun row => last ≤ key row) = [] := by
    rw [List.filter_eq_nil_iff]
    intro row rowMem
    obtain ⟨position, bound, rfl⟩ := List.mem_iff_getElem.mp rowMem
    rw [List.length_drop] at bound
    rw [List.getElem_drop, decide_eq_true_eq, not_le]
    refine lt_of_le_of_lt ?_ less
    rw [← nextEq]
    rcases Nat.eq_zero_or_pos position with rfl | after
    · simp
    · exact keyLe index (index + position) nextBound (by omega) (by omega)
  calc answer.take index
      = (answer.take index).filter (fun row => last ≤ key row) ++
          (answer.drop index).filter (fun row => last ≤ key row) := by
        rw [front, back, List.append_nil]
    _ = answer.filter fun row => last ≤ key row := by
        rw [← List.filter_append, List.take_append_drop]

/-- Up to a cut all answers have the same rows. -/
theorem take_perm (ordered : Ordered key rows answer)
    (otherOrdered : Ordered key rows other) {index : Nat}
    (cuts : CutsAt key rows index) : (answer.take index).Perm (other.take index) := by
  have same : answer.Perm other := ordered.perm.trans otherOrdered.perm.symm
  rcases Nat.eq_zero_or_pos index with rfl | positive
  · simp
  cases nextEq : (descending key rows)[index]? with
  | none =>
      have lengthEq := congrArg List.length (map_key_of_ordered ordered)
      have short : answer.length ≤ index := by
        rw [List.getElem?_eq_none_iff, ← lengthEq, List.length_map] at nextEq
        exact nextEq
      rw [List.take_of_length_le short,
        List.take_of_length_le (same.length_eq ▸ short)]
      exact same
  | some next =>
      obtain ⟨bound, -⟩ := List.getElem?_eq_some_iff.mp nextEq
      have lastEq := List.getElem?_eq_getElem (l := descending key rows)
        (show index - 1 < _ by omega)
      have differ := cuts _ next positive lastEq nextEq
      rw [take_eq_filter ordered positive lastEq nextEq differ,
        take_eq_filter otherOrdered positive lastEq nextEq differ]
      exact same.filter _

/-- Between two cuts all answers have the same rows. -/
theorem window_perm (ordered : Ordered key rows answer)
    (otherOrdered : Ordered key rows other) {offset limit : Nat}
    (cutsBefore : CutsAt key rows offset)
    (cutsAfter : CutsAt key rows (offset + limit)) :
    (window answer offset limit).Perm (window other offset limit) := by
  have before := take_perm ordered otherOrdered cutsBefore
  have after := take_perm ordered otherOrdered cutsAfter
  rw [← take_append_window, ← take_append_window] at after
  exact (List.perm_append_left_iff _).mp
    (after.trans (before.symm.append_right _))

variable {lists : Nat → List Row} {size count : Nat}

theorem pages_perm (separated : Separated key size rows)
    (ordered : ∀ index, Ordered key rows (lists index))
    (answerOrdered : Ordered key rows answer) :
    (pages lists size count).Perm (answer.take (count * size)) := by
  induction count with
  | zero => simp [pages_zero]
  | succ count ih =>
      have cutsAfter := separated (count + 1)
      rw [Nat.succ_mul] at cutsAfter
      rw [pages_succ, Nat.succ_mul, ← take_append_window]
      exact ih.append
        (window_perm (ordered count) answerOrdered (separated count) cutsAfter)

/-- If no page ends inside a key, the pages have every row once. -/
theorem complete_of_separated (separated : Separated key size rows)
    (ordered : ∀ index, Ordered key rows (lists index))
    (enough : rows.length ≤ count * size) : (pages lists size count).Perm rows := by
  have first := ordered 0
  have all : (pages lists size count).Perm ((lists 0).take (count * size)) :=
    pages_perm separated ordered first
  rw [List.take_of_length_le (first.perm.length_eq ▸ enough)] at all
  exact all.trans first.perm

/-! ## Needed -/

theorem window_perm_of_pages_perm {others : Nat → List Row} {page : Nat}
    (agree : ∀ index, index ≠ page → lists index = others index)
    (below : page < count)
    (same : (pages lists size count).Perm (pages others size count)) :
    (window (lists page) (page * size) size).Perm
      (window (others page) (page * size) size) := by
  induction count with
  | zero => omega
  | succ count ih =>
      rw [pages_succ, pages_succ] at same
      by_cases here : page = count
      · subst here
        have front : pages lists size page = pages others size page := by
          refine List.flatMap_congr fun index indexMem => ?_
          rw [agree index (List.mem_range.mp indexMem).ne]
        rw [front] at same
        exact (List.perm_append_left_iff _).mp same
      · rw [agree count (Ne.symm here)] at same
        exact ih (by omega) ((List.perm_append_right_iff _).mp same)

/-- Two neighbours of one key may change places. -/
theorem swap_ordered {front back : List Row} {last next : Row}
    (ordered : Ordered key rows (front ++ last :: next :: back))
    (same : key last = key next) :
    Ordered key rows (front ++ next :: last :: back) where
  perm := ((List.Perm.swap last next back).append_left front).trans ordered.perm
  sorted := by
    have sorted : (List.map key _).Pairwise fun first second => second ≤ first :=
      List.pairwise_map.mpr ordered.sorted
    have keysEq : (front ++ last :: next :: back).map key =
        (front ++ next :: last :: back).map key := by simp [same]
    rw [keysEq] at sorted
    exact List.pairwise_map.mp sorted

theorem window_after (front back : List Row) (last : Row) (limit : Nat) :
    window (front ++ last :: back) (front.length + 1) limit = back.take limit := by
  simp [window]

/-- Complete pages are not cut between two rows of one key. -/
theorem eq_of_complete {front back : List Row} {last next : Row} {page : Nat}
    (complete : ∀ lists : Nat → List Row,
      (∀ index, Ordered key rows (lists index)) →
        (pages lists size count).Perm rows)
    (ordered : Ordered key rows (front ++ last :: next :: back))
    (same : key last = key next) (cut : page * size = front.length + 1)
    (below : page < count) : last = next := by
  have swapped := swap_ordered ordered same
  let others (index : Nat) : List Row :=
    if index = page then front ++ next :: last :: back
    else front ++ last :: next :: back
  have othersOrdered (index : Nat) : Ordered key rows (others index) := by
    unfold others
    split
    · exact swapped
    · exact ordered
  have alike := (complete (fun _ => front ++ last :: next :: back)
    fun _ => ordered).trans (complete others othersOrdered).symm
  have windows := window_perm_of_pages_perm (fun index away => (if_neg away).symm)
    below alike
  rw [if_pos rfl, cut, window_after, window_after] at windows
  cases size with
  | zero => omega
  | succ size =>
      rw [List.take_succ_cons, List.take_succ_cons] at windows
      have single : [next].Perm [last] :=
        (List.perm_append_right_iff (back.take size)).mp windows
      exact (List.singleton_perm_singleton.mp single).symm

theorem split_at_neighbours {index : Nat} (bound : index + 1 < answer.length) :
    answer = answer.take index ++
      answer[index] :: answer[index + 1] :: answer.drop (index + 2) := by
  rw [← List.drop_eq_getElem_cons bound, ← List.drop_eq_getElem_cons (by omega),
    List.take_append_drop]

/-- If a page ends inside a key, some answers list one row on two pages and
leave another out. -/
theorem separated_of_complete (distinct : rows.Nodup)
    (enough : rows.length ≤ count * size)
    (complete : ∀ lists : Nat → List Row,
      (∀ index, Ordered key rows (lists index)) →
        (pages lists size count).Perm rows) :
    Separated key size rows := by
  intro page last next positive lastEq nextEq same
  have ordered := arrange_ordered (fun _ => 0) key rows
  have answerDistinct := ordered.perm.nodup_iff.mpr distinct
  have lengthEq := ordered.perm.length_eq
  rw [← map_key_of_ordered ordered] at lastEq nextEq
  generalize arrange (fun _ => 0) key rows = answer at *
  obtain ⟨index, indexEq⟩ : ∃ index, page * size = index + 1 :=
    ⟨page * size - 1, by omega⟩
  rw [indexEq, Nat.add_sub_cancel] at lastEq
  rw [indexEq] at nextEq
  obtain ⟨lastBound, lastKey⟩ := List.getElem?_eq_some_iff.mp lastEq
  obtain ⟨nextBound, nextKey⟩ := List.getElem?_eq_some_iff.mp nextEq
  rw [List.getElem_map] at lastKey nextKey
  rw [List.length_map] at nextBound
  have below : page < count := by
    refine Nat.lt_of_mul_lt_mul_right (a := size) ?_
    omega
  rw [split_at_neighbours nextBound] at ordered
  have equal := eq_of_complete complete ordered
    (lastKey.trans (same.trans nextKey.symm))
    (by rw [indexEq, List.length_take]; omega) below
  have positions := (answerDistinct.getElem_inj_iff).mp equal
  omega

/-- The pages are complete for every answer just when no page ends inside a
key. -/
theorem complete_iff (distinct : rows.Nodup)
    (enough : rows.length ≤ count * size) :
    (∀ lists : Nat → List Row, (∀ index, Ordered key rows (lists index)) →
        (pages lists size count).Perm rows) ↔
      Separated key size rows :=
  ⟨separated_of_complete distinct enough, fun separated _ ordered =>
    complete_of_separated separated ordered enough⟩

/-- The pages are complete whatever the ranks of their queries just when no page
ends inside a key. -/
theorem complete_iff_ranks (distinct : rows.Nodup)
    (enough : rows.length ≤ count * size) :
    (∀ ranks : Nat → Row → Nat,
        (pages (fun index => arrange (ranks index) key rows) size count).Perm rows) ↔
      Separated key size rows := by
  rw [← complete_iff distinct enough]
  constructor
  · intro complete lists ordered
    choose ranks ranked using fun index => exists_rank (ordered index) distinct
    have whole := complete ranks
    simp only [ranked] at whole
    exact whole
  · exact fun complete ranks =>
      complete _ fun index => arrange_ordered (ranks index) key rows

end Order

end PagedQuery
