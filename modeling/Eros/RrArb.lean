import Eros.Lib.RoundRobin
import Eros.Lib.Tournament
import Eros.NToOneXbar
import Mathlib.Data.Nat.Log

/-!
# `rr_arb_tree`

The arbiter tree for several inputs, with the round-robin counter of its own
(`ExtPrio = 0`, `FairArb = 1`, `flush_i` tied to 0).  The crossbars take it
without a lock; the arbiter of the register bus locks its decision and grants as
ready (`AxiVldRdy = 1`).  Input vectors are read as 0 past `NumIn`.  A node is
given by its height over the last level of the tree and its position there.
-/

set_option autoImplicit false

namespace Eros

/-! ## `lzc` -/

section Lzc
variable (width : Nat) (inI : Nat → Bool)

/-- `sel_nodes` and `index_nodes` of the trailing zero counter. -/
def lzcNode : Nat → Nat → Bool × Nat
  | 0, k =>
      if 2 * k < width - 1 then
        (inI (2 * k) || inI (2 * k + 1), if inI (2 * k) then 2 * k else 2 * k + 1)
      else if 2 * k = width - 1 then (inI (2 * k), 2 * k)
      else (false, 0)
  | height + 1, l =>
      let left := lzcNode height (2 * l)
      let right := lzcNode height (2 * l + 1)
      (left.1 || right.1, if left.1 then left.2 else right.2)

def lzcCnt : Nat := (lzcNode width inI (Nat.clog 2 width - 1) 0).2
def lzcEmpty : Bool := !(lzcNode width inI (Nat.clog 2 width - 1) 0).1

variable {width inI} (bounded : ∀ i, width ≤ i → inI i = false)
include bounded

theorem lzcNode_sel (height l : Nat) :
    (lzcNode width inI height l).1 = Tournament.requested inI (height + 1) l := by
  induction height generalizing l with
  | zero =>
    rw [lzcNode, Tournament.requested]
    by_cases reduces : 2 * l < width - 1
    · rw [if_pos reduces]
      rfl
    · have past : inI (2 * l + 1) = false := bounded _ (by omega)
      rw [if_neg reduces]
      by_cases first : 2 * l = width - 1
      · rw [if_pos first]
        simp [Tournament.requested, past]
      · have out : inI (2 * l) = false := bounded _ (by omega)
        rw [if_neg first]
        simp [Tournament.requested, past, out]
  | succ height ih =>
    rw [Tournament.requested, ← ih, ← ih]
    rfl

theorem lzcNode_index (height l : Nat)
    (requests : Tournament.requested inI (height + 1) l = true) :
    (lzcNode width inI height l).2 =
      Tournament.winner inI (fun _ => false) (height + 1) l := by
  induction height generalizing l with
  | zero =>
    simp only [Tournament.requested] at requests
    simp only [Tournament.winner, Tournament.turnsRight, Tournament.requested, Bool.and_false,
      Bool.or_false]
    rw [lzcNode]
    by_cases reduces : 2 * l < width - 1
    · rw [if_pos reduces]
      cases left : inI (2 * l) <;> simp
    · have past : inI (2 * l + 1) = false := bounded _ (by omega)
      rw [past, Bool.or_false] at requests
      have first : 2 * l = width - 1 := by
        by_contra out
        rw [bounded (2 * l) (by omega)] at requests
        cases requests
      rw [if_neg reduces, if_pos first, requests]
      simp
  | succ height ih =>
    have half := Tournament.requested_turnsRight (fun _ => false) requests
    simp only [lzcNode, lzcNode_sel bounded]
    rw [Tournament.winner]
    cases left : Tournament.requested inI (height + 1) (2 * l) with
    | true =>
      have chosen : Tournament.turnsRight inI (fun _ => false) (height + 1) l = false := by
        simp [Tournament.turnsRight, left]
      rw [chosen]
      exact ih _ left
    | false =>
      have chosen : Tournament.turnsRight inI (fun _ => false) (height + 1) l = true := by
        simp [Tournament.turnsRight, left]
      rw [chosen] at half ⊢
      exact ih _ half

omit bounded in
theorem root_div {width : Nat} (several : 2 ≤ width) {i : Nat} (inside : i < width) :
    i / 2 ^ (Nat.clog 2 width - 1 + 1) = 0 := by
  have levels : 0 < Nat.clog 2 width := Nat.clog_pos (by decide) several
  rw [Nat.sub_add_cancel levels]
  exact Nat.div_eq_of_lt (inside.trans_le (Nat.le_pow_clog (by decide) width))

variable (several : 2 ≤ width)
include several

theorem lzcEmpty_iff : lzcEmpty width inI = true ↔ ∀ i, inI i = false := by
  unfold lzcEmpty
  rw [lzcNode_sel bounded, Bool.not_eq_true', ← Bool.not_eq_true, Tournament.requested_iff]
  constructor
  · intro none i
    rw [← Bool.not_eq_true]
    intro set
    refine none ⟨i, root_div several ?_, set⟩
    by_contra past
    rw [bounded i (by omega)] at set
    cases set
  · rintro clear ⟨i, -, set⟩
    rw [clear i] at set
    cases set

theorem lzcCnt_least {i : Nat} (set : inI i = true) :
    inI (lzcCnt width inI) = true ∧ lzcCnt width inI ≤ i := by
  have inside : i < width := by
    by_contra past
    rw [bounded i (by omega)] at set
    cases set
  have below := root_div several inside
  have requests := Tournament.requested_of_leaf below set
  have index : lzcCnt width inI =
      Tournament.winner inI (fun _ => false) (Nat.clog 2 width - 1 + 1) 0 :=
    lzcNode_index bounded _ _ requests
  rw [index]
  exact ⟨Tournament.request_winner _ requests, Tournament.winner_le below set fun _ => rfl⟩

end Lzc

/-! ## The tree -/

namespace RrArb

section Tree
variable {α : Type*} (numIn : Nat) (reqD : Nat → Bool) (rrQ : Nat)

def reqNodes : Nat → Nat → Bool
  | 0, l =>
      if 2 * l < numIn - 1 then reqD (2 * l) || reqD (2 * l + 1)
      else if 2 * l = numIn - 1 then reqD (2 * l)
      else false
  | height + 1, l => reqNodes height (2 * l) || reqNodes height (2 * l + 1)

/-- `sel` of a node; `rr_q[NumLevels-1-level]` is the bit of its height. -/
def sel : Nat → Nat → Bool
  | 0, l => !reqD (2 * l) || reqD (2 * l + 1) && rrQ.testBit 0
  | height + 1, l =>
      !reqNodes numIn reqD height (2 * l) ||
        reqNodes numIn reqD height (2 * l + 1) && rrQ.testBit (height + 1)

def indexNodes : Nat → Nat → Nat
  | 0, l => if 2 * l < numIn - 1 then (sel numIn reqD rrQ 0 l).toNat else 0
  | height + 1, l =>
      if sel numIn reqD rrQ (height + 1) l then
        2 ^ (height + 1) + indexNodes height (2 * l + 1) % 2 ^ (height + 1)
      else indexNodes height (2 * l) % 2 ^ (height + 1)

def dataNodes (dataI : Nat → α) (zero : α) : Nat → Nat → α
  | 0, l =>
      if 2 * l < numIn - 1 then
        if sel numIn reqD rrQ 0 l then dataI (2 * l + 1) else dataI (2 * l)
      else if 2 * l = numIn - 1 then dataI (2 * l)
      else zero
  | height + 1, l =>
      if sel numIn reqD rrQ (height + 1) l then dataNodes dataI zero height (2 * l + 1)
      else dataNodes dataI zero height (2 * l)

/-- `gnt_o[i]` as the node passes the grant `gntNode` down to it; the other nodes
of the same height drive other outputs. -/
def gntNodes (axiVldRdy : Bool) : Nat → Nat → Bool → Nat → Bool
  | 0, l, gntNode, i =>
      if 2 * l < numIn - 1 then
        if i = 2 * l then
          gntNode && (axiVldRdy || reqD (2 * l)) && !sel numIn reqD rrQ 0 l
        else if i = 2 * l + 1 then
          gntNode && (axiVldRdy || reqD (2 * l + 1)) && sel numIn reqD rrQ 0 l
        else false
      else if 2 * l = numIn - 1 then
        if i = 2 * l then gntNode && (axiVldRdy || reqD (2 * l)) else false
      else false
  | height + 1, l, gntNode, i =>
      gntNodes axiVldRdy height (2 * l) (gntNode && !sel numIn reqD rrQ (height + 1) l) i ||
        gntNodes axiVldRdy height (2 * l + 1) (gntNode && sel numIn reqD rrQ (height + 1) l) i

variable {numIn reqD rrQ} (bounded : ∀ i, numIn ≤ i → reqD i = false)
include bounded

theorem reqNodes_eq (height l : Nat) :
    reqNodes numIn reqD height l = Tournament.requested reqD (height + 1) l := by
  induction height generalizing l with
  | zero =>
    rw [reqNodes, Tournament.requested]
    by_cases reduces : 2 * l < numIn - 1
    · rw [if_pos reduces]
      rfl
    · have past : reqD (2 * l + 1) = false := bounded _ (by omega)
      rw [if_neg reduces]
      by_cases first : 2 * l = numIn - 1
      · rw [if_pos first]
        simp [Tournament.requested, past]
      · have out : reqD (2 * l) = false := bounded _ (by omega)
        rw [if_neg first]
        simp [Tournament.requested, past, out]
  | succ height ih =>
    rw [Tournament.requested, ← ih, ← ih]
    rfl

theorem sel_eq (height l : Nat) :
    sel numIn reqD rrQ height l = Tournament.turnsRight reqD rrQ.testBit height l := by
  cases height with
  | zero => rfl
  | succ height =>
    rw [sel, Tournament.turnsRight, reqNodes_eq bounded, reqNodes_eq bounded]

theorem winner_succ (height l : Nat) :
    Tournament.winner reqD rrQ.testBit (height + 1) l =
      Tournament.winner reqD rrQ.testBit height (2 * l + (sel numIn reqD rrQ height l).toNat) := by
  rw [sel_eq bounded]
  rfl

theorem requested_sel (rrQ : Nat) {height l : Nat}
    (requests : Tournament.requested reqD (height + 1) l = true) :
    Tournament.requested reqD height (2 * l + (sel numIn reqD rrQ height l).toNat) = true := by
  rw [sel_eq bounded]
  exact Tournament.requested_turnsRight _ requests

theorem last_pair (rrQ : Nat) {l : Nat} (single : ¬2 * l < numIn - 1)
    (requests : Tournament.requested reqD 1 l = true) :
    2 * l = numIn - 1 ∧ reqD (2 * l) = true ∧ sel numIn reqD rrQ 0 l = false := by
  have past : reqD (2 * l + 1) = false := bounded _ (by omega)
  simp only [Tournament.requested, past, Bool.or_false] at requests
  refine ⟨?_, requests, by simp [sel, requests, past]⟩
  by_contra out
  rw [bounded (2 * l) (by omega)] at requests
  cases requests

omit bounded in
theorem indexNodes_lt (height l : Nat) : indexNodes numIn reqD rrQ height l < 2 ^ (height + 1) := by
  cases height with
  | zero =>
    rw [indexNodes]
    split_ifs
    · exact Bool.toNat_lt _
    · decide
  | succ height =>
    have low := Nat.mod_lt (indexNodes numIn reqD rrQ height (2 * l)) (Nat.two_pow_pos (height + 1))
    have high :=
      Nat.mod_lt (indexNodes numIn reqD rrQ height (2 * l + 1)) (Nat.two_pow_pos (height + 1))
    have doubled : 2 ^ (height + 1 + 1) = 2 ^ (height + 1) + 2 ^ (height + 1) := by
      rw [pow_succ, Nat.mul_two]
    rw [indexNodes]
    split_ifs <;> omega

theorem indexNodes_eq (rrQ : Nat) {height l : Nat}
    (requests : Tournament.requested reqD (height + 1) l = true) :
    2 ^ (height + 1) * l + indexNodes numIn reqD rrQ height l =
      Tournament.winner reqD rrQ.testBit (height + 1) l := by
  induction height generalizing l with
  | zero =>
    rw [winner_succ bounded, Tournament.winner, indexNodes]
    by_cases reduces : 2 * l < numIn - 1
    · rw [if_pos reduces]
      omega
    · rw [if_neg reduces, (last_pair bounded rrQ reduces requests).2.2]
      rfl
  | succ height ih =>
    have half := ih (requested_sel bounded rrQ requests)
    have doubled : 2 ^ (height + 1 + 1) * l = 2 ^ (height + 1) * (2 * l) := by
      rw [pow_succ, Nat.mul_assoc]
    rw [winner_succ bounded, ← half, indexNodes, doubled]
    cases side : sel numIn reqD rrQ (height + 1) l with
    | false =>
      rw [if_neg Bool.false_ne_true, Nat.mod_eq_of_lt (indexNodes_lt _ _)]
      rfl
    | true =>
      rw [if_pos rfl, Nat.mod_eq_of_lt (indexNodes_lt _ _), Bool.toNat_true, Nat.mul_add,
        Nat.mul_one, Nat.add_assoc]

theorem dataNodes_eq (rrQ : Nat) (dataI : Nat → α) (zero : α) {height l : Nat}
    (requests : Tournament.requested reqD (height + 1) l = true) :
    dataNodes numIn reqD rrQ dataI zero height l =
      dataI (Tournament.winner reqD rrQ.testBit (height + 1) l) := by
  induction height generalizing l with
  | zero =>
    rw [winner_succ bounded, Tournament.winner, dataNodes]
    by_cases reduces : 2 * l < numIn - 1
    · rw [if_pos reduces]
      cases sel numIn reqD rrQ 0 l <;> rfl
    · obtain ⟨first, -, left⟩ := last_pair bounded rrQ reduces requests
      rw [if_neg reduces, if_pos first, left]
      rfl
  | succ height ih =>
    rw [winner_succ bounded, ← ih (requested_sel bounded rrQ requests), dataNodes]
    cases sel numIn reqD rrQ (height + 1) l <;> rfl

omit bounded in
theorem gntNodes_below {axiVldRdy : Bool} {height l i : Nat} {gntNode : Bool}
    (granted : gntNodes numIn reqD rrQ axiVldRdy height l gntNode i = true) :
    gntNode = true ∧ i / 2 ^ (height + 1) = l := by
  induction height generalizing l gntNode with
  | zero =>
    rw [gntNodes] at granted
    split_ifs at granted with reduces left right first only
    · simp only [Bool.and_eq_true] at granted
      exact ⟨granted.1.1, by omega⟩
    · simp only [Bool.and_eq_true] at granted
      exact ⟨granted.1.1, by omega⟩
    · simp only [Bool.and_eq_true] at granted
      exact ⟨granted.1, by omega⟩
  | succ height ih =>
    rw [gntNodes, Bool.or_eq_true] at granted
    rcases granted with left | right
    · obtain ⟨gnt, below⟩ := ih left
      rw [Bool.and_eq_true] at gnt
      exact ⟨gnt.1, Tournament.div_of_half false below⟩
    · obtain ⟨gnt, below⟩ := ih right
      rw [Bool.and_eq_true] at gnt
      exact ⟨gnt.1, Tournament.div_of_half true below⟩

omit bounded in
theorem gntNodes_hotOne {axiVldRdy : Bool} {height l i j : Nat} {gntNode : Bool}
    (granted : gntNodes numIn reqD rrQ axiVldRdy height l gntNode i = true)
    (also : gntNodes numIn reqD rrQ axiVldRdy height l gntNode j = true) : j = i := by
  induction height generalizing l gntNode with
  | zero =>
    rw [gntNodes] at granted also
    split_ifs at granted also <;> simp_all
  | succ height ih =>
    rw [gntNodes] at granted also
    cases side : sel numIn reqD rrQ (height + 1) l <;>
      simp only [side, Bool.not_true, Bool.not_false, Bool.and_true, Bool.and_false,
        Bool.or_eq_true] at granted also
    · rcases granted with left | right
      · rcases also with left' | right'
        · exact ih left left'
        · exact absurd (gntNodes_below right').1 Bool.false_ne_true
      · exact absurd (gntNodes_below right).1 Bool.false_ne_true
    · rcases granted with left | right
      · exact absurd (gntNodes_below left).1 Bool.false_ne_true
      · rcases also with left' | right'
        · exact absurd (gntNodes_below left').1 Bool.false_ne_true
        · exact ih right right'

theorem gntNodes_winner (rrQ : Nat) (axiVldRdy : Bool) {height l : Nat}
    (requests : Tournament.requested reqD (height + 1) l = true) :
    gntNodes numIn reqD rrQ axiVldRdy height l true
      (Tournament.winner reqD rrQ.testBit (height + 1) l) = true := by
  induction height generalizing l with
  | zero =>
    have wins := Tournament.request_winner rrQ.testBit requests
    rw [winner_succ bounded, Tournament.winner] at wins ⊢
    rw [gntNodes]
    by_cases reduces : 2 * l < numIn - 1
    · rw [if_pos reduces]
      cases side : sel numIn reqD rrQ 0 l with
      | false =>
        rw [side] at wins
        simpa using Or.inr wins
      | true =>
        rw [side] at wins
        simpa using Or.inr wins
    · obtain ⟨first, holds, left⟩ := last_pair bounded rrQ reduces requests
      rw [if_neg reduces, if_pos first, left]
      simp [holds]
  | succ height ih =>
    have half := ih (requested_sel bounded rrQ requests)
    rw [winner_succ bounded, gntNodes]
    cases side : sel numIn reqD rrQ (height + 1) l with
    | false =>
      rw [side] at half
      rw [Bool.or_eq_true]
      exact Or.inl half
    | true =>
      rw [side] at half
      rw [Bool.or_eq_true]
      exact Or.inr half

omit bounded in
theorem gntNodes_requests {height l i : Nat} {gntNode : Bool}
    (granted : gntNodes numIn reqD rrQ false height l gntNode i = true) : reqD i = true := by
  induction height generalizing l gntNode with
  | zero =>
    rw [gntNodes] at granted
    split_ifs at granted <;> simp_all
  | succ height ih =>
    rw [gntNodes, Bool.or_eq_true] at granted
    rcases granted with left | right
    · exact ih left
    · exact ih right

end Tree

end RrArb

/-! ## The arbiter -/

/-- The parameters in which the instances differ. -/
structure RrArbParams where
  axiVldRdy : Bool
  lockIn : Bool

structure RrArb (numIn : Nat) where
  rrQ : Nat
  lockQ : Bool
  reqQ : Fin numIn → Bool

structure RrArbIn (α : Type*) (numIn : Nat) where
  reqI : Fin numIn → Bool
  dataI : Fin numIn → α
  gntI : Bool

/-- An input vector, read as `past` beyond its last input. -/
def extend {β : Type*} {numIn : Nat} (past : β) (vec : Fin numIn → β) (i : Nat) : β :=
  if inside : i < numIn then vec ⟨i, inside⟩ else past

@[simp] theorem extend_val {β : Type*} {numIn : Nat} (past : β) (vec : Fin numIn → β)
    (i : Fin numIn) : extend past vec i = vec i := by
  simp [extend]

theorem extend_past {β : Type*} {numIn : Nat} (past : β) (vec : Fin numIn → β) (i : Nat)
    (out : numIn ≤ i) : extend past vec i = past := by
  simp [extend, Nat.not_lt.mpr out]

theorem exists_of_extend {numIn : Nat} {vec : Fin numIn → Bool} {i : Nat}
    (set : extend false vec i = true) : ∃ inside : i < numIn, vec ⟨i, inside⟩ = true := by
  unfold extend at set
  split_ifs at set with inside
  exact ⟨inside, set⟩

namespace RrArb
variable {α : Type*} {numIn : Nat} (params : RrArbParams) (arb : RrArb numIn)
  (inp : RrArbIn α numIn)

def reset (numIn : Nat) : RrArb numIn := ⟨0, false, fun _ => false⟩

def reqD : Fin numIn → Bool :=
  if params.lockIn then if arb.lockQ then arb.reqQ else inp.reqI
  else inp.reqI

def reqDN : Nat → Bool := extend false (arb.reqD params inp)

def reqO : Bool := reqNodes numIn (arb.reqDN params inp) (Nat.clog 2 numIn - 1) 0

def idxO : Nat := indexNodes numIn (arb.reqDN params inp) arb.rrQ (Nat.clog 2 numIn - 1) 0

def dataO (zero : α) : α :=
  dataNodes numIn (arb.reqDN params inp) arb.rrQ (extend zero inp.dataI) zero
    (Nat.clog 2 numIn - 1) 0

def gntO : Fin numIn → Bool := fun i =>
  gntNodes numIn (arb.reqDN params inp) arb.rrQ params.axiVldRdy (Nat.clog 2 numIn - 1) 0
    inp.gntI i

def upperMask (i : Nat) : Bool := if i > arb.rrQ then arb.reqDN params inp i else false
def lowerMask (i : Nat) : Bool := if i ≤ arb.rrQ then arb.reqDN params inp i else false

def nextIdx : Nat :=
  if lzcEmpty numIn (arb.upperMask params inp) then lzcCnt numIn (arb.lowerMask params inp)
  else lzcCnt numIn (arb.upperMask params inp)

def serves : Bool := inp.gntI && arb.reqO params inp

def next : RrArb numIn where
  rrQ := if arb.serves params inp then arb.nextIdx params inp else arb.rrQ
  lockQ := if params.lockIn then arb.reqO params inp && !inp.gntI else arb.lockQ
  reqQ := if params.lockIn then arb.reqD params inp else arb.reqQ

end RrArb

/-! ## One cycle -/

namespace RrArb
variable {α : Type*} {numIn : Nat} {params : RrArbParams} {arb : RrArb numIn}
  {inp : RrArbIn α numIn}

theorem reqDN_past (i : Nat) (out : numIn ≤ i) : arb.reqDN params inp i = false :=
  extend_past _ _ _ out

@[simp] theorem reqDN_val (i : Fin numIn) : arb.reqDN params inp i = arb.reqD params inp i :=
  extend_val _ _ _

/-- What the arbiter does with its requests when there are any: one of them is
passed on, and it is the one of the round-robin counter if that is among them. -/
structure Picks (params : RrArbParams) (arb : RrArb numIn) (inp : RrArbIn α numIn)
    (pick : Fin numIn) : Prop where
  requests : arb.reqD params inp pick = true
  reqO : arb.reqO params inp = true
  idxO : arb.idxO params inp = pick
  dataO : ∀ zero, arb.dataO params inp zero = inp.dataI pick
  gntO : ∀ i, arb.gntO params inp i = (inp.gntI && decide (i = pick))
  turn : ∀ i : Fin numIn, arb.rrQ = i → arb.reqD params inp i = true → pick = i

variable (several : 2 ≤ numIn)
include several

theorem exists_picks {requester : Fin numIn} (requests : arb.reqD params inp requester = true) :
    ∃ pick, Picks params arb inp pick := by
  have requestsN : arb.reqDN params inp requester = true := by rwa [reqDN_val]
  have below := root_div several requester.isLt
  have root := Tournament.requested_of_leaf below requestsN
  have wins := Tournament.request_winner arb.rrQ.testBit root
  obtain ⟨inside, holds⟩ := exists_of_extend wins
  have bounded : ∀ i, numIn ≤ i → arb.reqDN params inp i = false := reqDN_past
  refine ⟨⟨_, inside⟩, ?_⟩
  exact {
    requests := holds
    reqO := (reqNodes_eq bounded _ _).trans root
    idxO := by
      have index := indexNodes_eq bounded arb.rrQ root
      rw [Nat.mul_zero, Nat.zero_add] at index
      exact index
    dataO := fun zero => by
      have picked := dataNodes_eq bounded arb.rrQ (extend zero inp.dataI) zero root
      exact picked.trans (extend_val zero inp.dataI ⟨_, inside⟩)
    gntO := fun i => by
      unfold RrArb.gntO
      cases given : inp.gntI with
      | false =>
        rw [Bool.false_and, ← Bool.not_eq_true]
        intro granted
        exact Bool.false_ne_true (gntNodes_below granted).1
      | true =>
        have wonBy := gntNodes_winner bounded arb.rrQ params.axiVldRdy root
        rw [Bool.true_and]
        by_cases same : i = ⟨_, inside⟩
        · subst same
          simpa using wonBy
        · rw [decide_eq_false same, ← Bool.not_eq_true]
          intro granted
          exact same (Fin.ext (gntNodes_hotOne wonBy granted))
    turn := fun i turn asks => by
      have named : arb.reqDN params inp i = true := by rwa [reqDN_val]
      have chosen := Tournament.winner_of_turn (root_div several i.isLt) named
        fun level _ => congrArg (fun counter => Nat.testBit counter level) turn
      exact Fin.ext chosen }

theorem reqO_iff : arb.reqO params inp = true ↔ ∃ i, arb.reqD params inp i = true := by
  constructor
  · intro requested
    unfold reqO at requested
    rw [reqNodes_eq reqDN_past, Tournament.requested_iff] at requested
    obtain ⟨leaf, -, requests⟩ := requested
    obtain ⟨inside, holds⟩ := exists_of_extend requests
    exact ⟨_, holds⟩
  · rintro ⟨i, requests⟩
    obtain ⟨pick, picks⟩ := exists_picks several requests
    exact picks.reqO

/-- The counter moves on to the next requester round the inputs. -/
theorem nextIdx_follows {requester : Fin numIn} (requests : arb.reqD params inp requester = true) :
    RoundRobin.Follows (arb.reqDN params inp) arb.rrQ (arb.nextIdx params inp) ∧
      arb.nextIdx params inp < numIn := by
  have requestsN : arb.reqDN params inp requester = true := by rwa [reqDN_val]
  have upperPast : ∀ i, numIn ≤ i → arb.upperMask params inp i = false := by
    intro i out
    simp [upperMask, reqDN_past i out]
  have lowerPast : ∀ i, numIn ≤ i → arb.lowerMask params inp i = false := by
    intro i out
    simp [lowerMask, reqDN_past i out]
  unfold nextIdx
  cases empty : lzcEmpty numIn (arb.upperMask params inp) with
  | true =>
    rw [if_pos rfl]
    rw [lzcEmpty_iff upperPast several] at empty
    have none : ∀ place, arb.rrQ < place → arb.reqDN params inp place = false := by
      intro place above
      simpa [upperMask, above] using empty place
    have low : arb.lowerMask params inp requester = true := by
      have upTo : (requester : Nat) ≤ arb.rrQ := by
        by_contra above
        rw [none requester (by omega)] at requestsN
        cases requestsN
      simpa [lowerMask, upTo] using requests
    have least := lzcCnt_least lowerPast several low
    have chosen : arb.reqDN params inp (lzcCnt numIn (arb.lowerMask params inp)) = true := by
      have set := least.1
      unfold lowerMask at set
      split_ifs at set
      exact set
    refine ⟨⟨chosen, fun place above asks => ?_, fun _ place upTo asks => ?_⟩, ?_⟩
    · rw [none place above] at asks
      cases asks
    · exact (lzcCnt_least lowerPast several (by simpa [lowerMask, upTo] using asks)).2
    · exact (exists_of_extend chosen).1
  | false =>
    rw [if_neg Bool.false_ne_true]
    have some : ∃ i, arb.upperMask params inp i = true := by
      by_contra none
      have clear : lzcEmpty numIn (arb.upperMask params inp) = true := by
        rw [lzcEmpty_iff upperPast several]
        intro i
        rw [← Bool.not_eq_true]
        exact fun set => none ⟨i, set⟩
      rw [empty] at clear
      cases clear
    obtain ⟨i, set⟩ := some
    have least := (lzcCnt_least upperPast several set).1
    have chosen : arb.rrQ < lzcCnt numIn (arb.upperMask params inp) ∧
        arb.reqDN params inp (lzcCnt numIn (arb.upperMask params inp)) = true := by
      unfold upperMask at least
      split_ifs at least with above
      exact ⟨above, least⟩
    refine ⟨⟨chosen.2, fun place above asks => ⟨chosen.1, ?_⟩, fun down => ?_⟩, ?_⟩
    · exact (lzcCnt_least upperPast several (by simpa [upperMask, above] using asks)).2
    · omega
    · exact (exists_of_extend chosen.2).1

theorem turn_of_waits {requester : Fin numIn} (given : inp.gntI = true)
    (requests : arb.reqD params inp requester = true)
    (waits : arb.gntO params inp requester = false) : arb.rrQ ≠ requester := by
  intro turn
  obtain ⟨pick, picks⟩ := exists_picks several requests
  rw [picks.gntO, given, picks.turn requester turn requests] at waits
  simp at waits

theorem nearer_of_waits {requester : Fin numIn} (counter : arb.rrQ < numIn)
    (given : inp.gntI = true) (requests : arb.reqD params inp requester = true)
    (waits : arb.gntO params inp requester = false) :
    RoundRobin.distance numIn (arb.nextIdx params inp) requester <
      RoundRobin.distance numIn arb.rrQ requester := by
  obtain ⟨follows, nextIn⟩ := nextIdx_follows several requests
  exact follows.nearer nextIn counter ((reqDN_val requester).trans requests)
    (turn_of_waits several given requests waits)

omit several in
theorem reqD_next_of_held (lockIn : params.lockIn = true) (requested : arb.reqO params inp = true)
    (ungranted : inp.gntI = false) (later : RrArbIn α numIn) :
    (arb.next params inp).reqD params later = arb.reqD params inp := by
  unfold next
  rw [requested, ungranted]
  simp only [reqD, lockIn, if_true, Bool.not_false, Bool.and_true]

omit several in
theorem reqD_next_of_free (free : params.lockIn = true → inp.gntI = true)
    (later : RrArbIn α numIn) : (arb.next params inp).reqD params later = later.reqI := by
  unfold next
  cases lockIn : params.lockIn with
  | false => simp [reqD, lockIn]
  | true =>
    rw [free lockIn]
    simp [reqD, lockIn]

omit several in
theorem gntO_hotOne {i j : Fin numIn} (granted : arb.gntO params inp i = true)
    (also : arb.gntO params inp j = true) : inp.gntI = true ∧ j = i :=
  ⟨(gntNodes_below granted).1, Fin.ext (gntNodes_hotOne granted also)⟩

omit several in
theorem reqD_of_gntO (direct : params.axiVldRdy = false) {i : Fin numIn}
    (granted : arb.gntO params inp i = true) : arb.reqD params inp i = true := by
  unfold gntO at granted
  rw [direct] at granted
  have set := gntNodes_requests granted
  rwa [reqDN_val] at set

end RrArb

/-! ## The arbiter of a crossbar -/

/-- The crossbars take neither the lock nor grants without a request. -/
def xbarParams : RrArbParams := ⟨false, false⟩

/-- `stream_arbiter` takes both. -/
def streamArbiterParams : RrArbParams := ⟨true, true⟩

namespace RrArb
variable {numIn : Nat} (arb : RrArb numIn)

def tree : RrArbTree numIn where
  reqO req := arb.reqO xbarParams (⟨req, fun _ => ObiReq.zero, false⟩ : RrArbIn ObiReq numIn)
  gntO req gnt := arb.gntO xbarParams (⟨req, fun _ => ObiReq.zero, gnt⟩ : RrArbIn ObiReq numIn)
  dataO req data := arb.dataO xbarParams ⟨req, data, false⟩ ObiReq.zero

theorem gntO_requests {α : Type*} {inp : RrArbIn α numIn} {i : Fin numIn}
    (granted : arb.gntO xbarParams inp i = true) : inp.reqI i = true :=
  reqD_of_gntO rfl granted

/-- The arbiter that the crossbars take as given is this one. -/
theorem tree_sound (several : 2 ≤ numIn) : arb.tree.Sound where
  hotOne req gnt master other granted also := (gntO_hotOne granted also).2
  granted req gnt master granted := ⟨arb.gntO_requests granted, (gntO_hotOne granted granted).1⟩
  passes req requested := by
    obtain ⟨i, asks⟩ := (reqO_iff several).mp requested
    obtain ⟨pick, picks⟩ : ∃ pick, Picks xbarParams arb
        (⟨req, fun _ => ObiReq.zero, true⟩ : RrArbIn ObiReq numIn) pick :=
      exists_picks several asks
    exact ⟨pick, (picks.gntO pick).trans (by simp)⟩
  requests req := reqO_iff several
  forwards req data gnt master granted := by
    have asks : req master = true := arb.gntO_requests granted
    obtain ⟨pick, picks⟩ : ∃ pick, Picks xbarParams arb
        (⟨req, data, gnt⟩ : RrArbIn ObiReq numIn) pick := exists_picks several asks
    have same : master = pick := by
      have won : arb.gntO xbarParams (⟨req, data, gnt⟩ : RrArbIn ObiReq numIn) master = true :=
        granted
      rw [picks.gntO, Bool.and_eq_true, decide_eq_true_eq] at won
      exact won.2
    rw [same]
    exact picks.dataO ObiReq.zero

end RrArb

end Eros
