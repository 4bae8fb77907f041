import Mathlib.Data.List.GetD
import Iso21177.Lib.Run
import Iso21177.Client.Headers

/-!
# Splitting the Status Line

`split` walks over a text with one index that two loops advance: the inner one to the
next separator or to the end, the outer one past it. The index has 32 bits, while the
length of the text may have more.

`splitStep` is one test of one of the loops. The index never passes the end by more
than one, so the loops come to an end unless it wraps around on the way there
(`splitReturns_iff`): a text of 2^32 octets or more has no end the index could reach,
and in one that is an octet shorter it steps from the end back to the start, if the last
octet is no separator. What the loops return is the plain `split`.

No part has a separator in it, and the parts joined with spaces are the text, less a
space at its end. So the status line of a reply is taken apart at its first two spaces
(`statusLine_split`).

## Main definitions

* `SplitState`, `splitStep`: One test of the loops.
* `SplitReturns`: The loops end, with these parts.
* `SplitInv`, `splitLeft`: What holds at each test, and how many are left.
* `SplitInside`: What holds at each test if the index does not reach the end.

## Theorems

* `splitIndex_succ`, `splitInv_outer`, `splitInv_octet`, `splitInv_part`, `splitInv_step`,
  `splitStep_none`, `splitReturns_split`: The loops return the plain `split`.
* `splitInside_step`, `splitReturns_iff`: When they do not end, and when they do.
* `splitFrom_append`, `splitFrom_eq_nil`, `mem_splitFrom`, `intercalate_splitFrom`,
  `splitFrom_head`: The parts of a text.
* `replyParts_eq`, `statusLine_split`: Splitting a status line.
-/

namespace Iso21177

open Packet HttpHeaders

/-- Where `split` is: at the test of the `for` loop, or at that of the `while` loop in it. -/
inductive SplitState
  | outer (i : UInt32) (parts : List Bytes)
  | inner (i start : UInt32) (parts : List Bytes)
  deriving DecidableEq

/-- One test of `split`. The index is advanced by both loops. -/
def splitStep (str delims : Bytes) : SplitState → Option SplitState
  | .outer i parts => if i.toNat < str.length then some (.inner i i parts) else none
  | .inner i start parts =>
    if i.toNat < str.length ∧ str.getD i.toNat 0 ∉ delims then some (.inner (i + 1) start parts)
    else
      -- The part is added, and the outer loop moves on, also from the end.
      some (.outer (i + 1) (parts ++ [(str.drop start.toNat).take (i - start).toNat]))

/-- `split` returns these parts. -/
def SplitReturns (str delims : Bytes) (parts : List Bytes) : Prop :=
  ∃ i, .outer i parts ∈ StateTransition.eval (splitStep str delims) (.outer 0 [])

/-- What holds at each test: the parts so far, with those of the rest, are those of the
    text. Inside a part there was no separator. -/
def SplitInv (str delims : Bytes) : SplitState → Prop
  | .outer i parts =>
    i.toNat ≤ str.length + 1 ∧ parts ++ split (str.drop i.toNat) delims = split str delims
  | .inner i start parts =>
    start.toNat < str.length ∧ start.toNat ≤ i.toNat ∧ i.toNat ≤ str.length ∧
      (∀ k, start.toNat ≤ k → k < i.toNat → str.getD k 0 ∉ delims) ∧
      parts ++ splitFrom delims ((str.drop start.toNat).take (i.toNat - start.toNat))
        (str.drop i.toNat) = split str delims

/-- A bound on the tests that are left. -/
def splitLeft (str : Bytes) : SplitState → Nat
  | .outer i _ => 2 * (str.length + 1 - i.toNat)
  | .inner i _ _ => 2 * (str.length - i.toNat) + 1

section
variable {str delims : Bytes}

theorem drop_eq_getD_cons {i : Nat} (h : i < str.length) :
    str.drop i = str.getD i 0 :: str.drop (i + 1) := by
  rw [List.getD_eq_getElem str 0 h, List.drop_eq_getElem_cons h]

/-- A stretch of a text and the octet behind it. -/
theorem take_drop_succ {start i : Nat} (hle : start ≤ i) (h : i < str.length) :
    (str.drop start).take (i + 1 - start) =
      (str.drop start).take (i - start) ++ [str.getD i 0] := by
  have hat : (str.drop start)[i - start]? = some (str.getD i 0) := by
    rw [List.getElem?_drop, Nat.add_sub_cancel' hle, List.getD_eq_getElem str 0 h,
      List.getElem?_eq_getElem h]
  rw [Nat.succ_sub hle, List.take_add_one, hat, Option.toList_some]

/-- The index does not wrap around on the way to the end. -/
theorem splitIndex_succ {i start : UInt32} {parts : List Bytes} (hends : SplitEnds str delims)
    (h : SplitInv str delims (.inner i start parts)) : (i + 1).toNat = i.toNat + 1 := by
  rcases h with ⟨hstart, hle, hend, hno, -⟩
  have hlt : i.toNat + 1 < 2 ^ 32 := by
    rcases hends with hshort | ⟨hlen, hlast⟩
    · omega
    · -- At the end the last octet would have been passed, which is a separator.
      have hne : i.toNat ≠ str.length := by
        intro heq
        exact hno (str.length - 1) (by omega) (by omega) hlast
      omega
  rw [UInt32.toNat_add, UInt32.toNat_one]
  exact Nat.mod_eq_of_lt hlt

theorem splitInv_outer {i : UInt32} {parts : List Bytes} (hlt : i.toNat < str.length)
    (h : SplitInv str delims (.outer i parts)) : SplitInv str delims (.inner i i parts) := by
  rcases h with ⟨-, hparts⟩
  refine ⟨hlt, le_rfl, hlt.le, fun k hk hk' => absurd hk (by omega), ?_⟩
  rw [Nat.sub_self, List.take_zero]
  exact hparts

/-- An octet that is no separator belongs to the part. -/
theorem splitInv_octet {i start : UInt32} {parts : List Bytes} (hends : SplitEnds str delims)
    (hlt : i.toNat < str.length) (hno : str.getD i.toNat 0 ∉ delims)
    (h : SplitInv str delims (.inner i start parts)) :
    SplitInv str delims (.inner (i + 1) start parts) := by
  have hsucc := splitIndex_succ hends h
  rcases h with ⟨hstart, hle, -, hpassed, hparts⟩
  simp only [SplitInv, hsucc]
  refine ⟨hstart, by omega, hlt, fun k hk hk' => ?_, ?_⟩
  · by_cases heq : k = i.toNat
    · exact heq ▸ hno
    · exact hpassed k hk (by omega)
  · -- The octet moves from the rest to the part.
    rw [drop_eq_getD_cons hlt, splitFrom, if_neg hno] at hparts
    rw [take_drop_succ hle hlt]
    exact hparts

/-- The index is behind a part: at a separator or at the end. -/
theorem splitInv_part {i start : UInt32} {parts : List Bytes} (hends : SplitEnds str delims)
    (hstop : i.toNat < str.length → str.getD i.toNat 0 ∈ delims)
    (h : SplitInv str delims (.inner i start parts)) :
    SplitInv str delims
      (.outer (i + 1) (parts ++ [(str.drop start.toNat).take (i - start).toNat])) := by
  have hsucc := splitIndex_succ hends h
  rcases h with ⟨hstart, hle, hend, -, hparts⟩
  have hsub : (i - start).toNat = i.toNat - start.toNat :=
    UInt32.toNat_sub_of_le i start (UInt32.le_iff_toNat_le.mpr hle)
  simp only [SplitInv, hsucc, hsub]
  refine ⟨by omega, ?_⟩
  rw [← hparts, List.append_assoc, List.singleton_append]
  congr 1
  by_cases hlt : i.toNat < str.length
  · -- A separator: the rest is split from behind it.
    rw [drop_eq_getD_cons hlt, splitFrom, if_pos (hstop hlt)]
    rfl
  · -- The end: the part has octets, because it starts inside the text.
    have hlen : ((str.drop start.toNat).take (i.toNat - start.toNat)).length ≠ 0 := by
      rw [List.length_take, List.length_drop]
      omega
    have hrest : ∀ k, i.toNat ≤ k → str.drop k = [] :=
      fun k hk => List.drop_eq_nil_of_le (by omega)
    rw [hrest _ (Nat.le_succ _), hrest _ le_rfl, splitFrom,
      if_neg (fun hnil => hlen (List.length_eq_zero_iff.mpr hnil))]
    rfl

/-- Each test keeps the invariant and leaves fewer. -/
theorem splitInv_step (hends : SplitEnds str delims) (s s' : SplitState)
    (hinv : SplitInv str delims s) (h : splitStep str delims s = some s') :
    SplitInv str delims s' ∧ splitLeft str s' < splitLeft str s := by
  -- Entering the inner loop leaves the index where it is, and the bound is one less there.
  cases s with
  | outer i parts =>
      simp only [splitStep] at h
      split at h
      · rename_i hlt
        rw [Option.some.injEq] at h
        rw [← h]
        refine ⟨splitInv_outer hlt hinv, ?_⟩
        simp only [splitLeft]
        omega
      · exact absurd h (by simp only [reduceCtorEq, not_false_eq_true])
  | inner i start parts =>
      have hsucc := splitIndex_succ hends hinv
      have hend := hinv.2.2.1
      simp only [splitStep] at h
      split at h
      · rename_i hon
        rw [Option.some.injEq] at h
        rw [← h]
        refine ⟨splitInv_octet hends hon.1 hon.2 hinv, ?_⟩
        simp only [splitLeft, hsucc]
        omega
      · rename_i hoff
        rw [Option.some.injEq] at h
        rw [← h]
        refine ⟨splitInv_part hends (fun hlt => ?_) hinv, ?_⟩
        · by_contra hno
          exact hoff ⟨hlt, hno⟩
        · simp only [splitLeft, hsucc]
          omega

/-- Only the outer loop can end, and only behind the text. -/
theorem splitStep_none {s : SplitState} (h : splitStep str delims s = none) :
    ∃ i parts, s = .outer i parts ∧ str.length ≤ i.toNat := by
  cases s with
  | outer i parts =>
      simp only [splitStep] at h
      split at h
      · exact absurd h (by simp only [reduceCtorEq, not_false_eq_true])
      · rename_i hend
        exact ⟨i, parts, rfl, by omega⟩
  | inner i start parts =>
      simp only [splitStep] at h
      split at h
      · exact absurd h (by simp only [reduceCtorEq, not_false_eq_true])
      · exact absurd h (by simp only [reduceCtorEq, not_false_eq_true])

/-- The loops return the plain `split`, if the index reaches the end. -/
theorem splitReturns_split (hends : SplitEnds str delims) :
    SplitReturns str delims (split str delims) := by
  have hfirst : SplitInv str delims (.outer 0 []) := ⟨Nat.zero_le _, rfl⟩
  rcases loop_ends (SplitInv str delims) (splitLeft str) (splitInv_step hends) hfirst with
    ⟨t, ht, hinv, hnone⟩
  rcases splitStep_none hnone with ⟨i, parts, rfl, hend⟩
  -- Behind the text nothing is left to split.
  have hparts := hinv.2
  rw [List.drop_eq_nil_of_le hend] at hparts
  have hall : parts = split str delims := by
    rw [← hparts]
    exact (List.append_nil parts).symm
  exact ⟨i, hall ▸ ht⟩

/-- The index is not behind the text when the outer loop is tested. -/
def SplitInside (str : Bytes) : SplitState → Prop
  | .outer i _ => i.toNat < str.length
  | .inner i _ _ => i.toNat ≤ str.length

theorem splitInside_step (hends : ¬ SplitEnds str delims) (s : SplitState)
    (hin : SplitInside str s) : ∃ s', splitStep str delims s = some s' ∧ SplitInside str s' := by
  have hlen : 2 ^ 32 - 1 ≤ str.length := by
    by_contra hshort
    exact hends (Or.inl (by omega))
  cases s with
  | outer i parts => exact ⟨.inner i i parts, if_pos hin, le_of_lt hin⟩
  | inner i start parts =>
      have hsucc : (i + 1).toNat = (i.toNat + 1) % 2 ^ 32 := by
        rw [UInt32.toNat_add, UInt32.toNat_one]
      simp only [SplitInside] at hin
      by_cases hon : i.toNat < str.length ∧ str.getD i.toNat 0 ∉ delims
      · refine ⟨.inner (i + 1) start parts, if_pos hon, ?_⟩
        simp only [SplitInside, hsucc]
        exact (Nat.mod_le _ _).trans hon.1
      · refine ⟨_, if_neg hon, ?_⟩
        simp only [SplitInside, hsucc]
        -- From the end the index wraps around, and a separator there is not the last octet.
        by_cases hwrap : i.toNat + 1 = 2 ^ 32
        · rw [hwrap, Nat.mod_self]
          omega
        · have hbound := i.toNat_lt
          rw [Nat.mod_eq_of_lt (by omega)]
          by_contra hlast
          refine hends (Or.inr ⟨by omega, ?_⟩)
          by_contra hno
          have heq : str.length - 1 = i.toNat := by omega
          rw [heq] at hno
          exact hon ⟨by omega, hno⟩

/-- `split` returns exactly if the index reaches the end, and then the plain `split`. -/
theorem splitReturns_iff {parts : List Bytes} :
    SplitReturns str delims parts ↔ SplitEnds str delims ∧ parts = split str delims := by
  constructor
  · rintro ⟨i, hi⟩
    have hends : SplitEnds str delims := by
      by_contra hends
      have hne : SplitInside str (.outer 0 []) := by
        have hshort : ¬ str.length < 2 ^ 32 - 1 := fun h => hends (Or.inl h)
        simp only [SplitInside, UInt32.toNat_zero]
        omega
      exact loop_endless (SplitInside str) (splitInside_step hends) hne hi
    rcases splitReturns_split hends with ⟨j, hj⟩
    have hsame := Part.mem_unique hi hj
    rw [SplitState.outer.injEq] at hsame
    exact ⟨hends, hsame.2⟩
  · rintro ⟨hends, rfl⟩
    exact splitReturns_split hends

/-- Octets that are no separators go to the part. -/
theorem splitFrom_append {a : Bytes} (ha : ∀ b ∈ a, b ∉ delims) (part rest : Bytes) :
    splitFrom delims part (a ++ rest) = splitFrom delims (part ++ a) rest := by
  induction a generalizing part with
  | nil => rw [List.nil_append, List.append_nil]
  | cons b bs ih =>
      rw [List.cons_append, splitFrom, if_neg (ha b List.mem_cons_self),
        ih (fun c hc => ha c (List.mem_cons_of_mem b hc)), List.append_assoc, List.singleton_append]

theorem splitFrom_eq_nil {part : Bytes} (h : splitFrom delims part str = []) :
    part = [] ∧ str = [] := by
  induction str generalizing part with
  | nil =>
      rw [splitFrom] at h
      split at h
      · rename_i hpart
        exact ⟨hpart, rfl⟩
      · exact absurd h (List.cons_ne_nil _ _)
  | cons b bs ih =>
      rw [splitFrom] at h
      split at h
      · exact absurd h (List.cons_ne_nil _ _)
      · exact absurd (ih h).1 (List.append_ne_nil_of_right_ne_nil _ (List.cons_ne_nil _ _))

/-- No part has a separator in it. -/
theorem mem_splitFrom {part : Bytes} (hpart : ∀ b ∈ part, b ∉ delims) :
    ∀ p ∈ splitFrom delims part str, ∀ b ∈ p, b ∉ delims := by
  induction str generalizing part with
  | nil =>
      intro p hp
      rw [splitFrom] at hp
      split at hp
      · exact absurd hp List.not_mem_nil
      · exact List.mem_singleton.mp hp ▸ hpart
  | cons b bs ih =>
      intro p hp
      rw [splitFrom] at hp
      split at hp
      · rcases List.mem_cons.mp hp with rfl | hp
        · exact hpart
        · exact ih (fun c hc => absurd hc List.not_mem_nil) p hp
      · rename_i hb
        refine ih (fun c hc => ?_) p hp
        rcases List.mem_append.mp hc with hc | hc
        · exact hpart c hc
        · exact List.mem_singleton.mp hc ▸ hb

/-- The parts joined again: a separator at the end is lost, and nothing else. -/
theorem intercalate_splitFrom (d : UInt8) (part str : Bytes) :
    [d].intercalate (splitFrom [d] part str) =
      part ++ if str.getLast? = some d then str.dropLast else str := by
  -- What is at the end of the rest is at the end of the text.
  have hcons : ∀ (b : UInt8) (bs : Bytes), (bs = [] → b ≠ d) →
      (if (b :: bs).getLast? = some d then (b :: bs).dropLast else b :: bs) =
        b :: if bs.getLast? = some d then bs.dropLast else bs := by
    intro b bs hlast
    cases bs with
    | nil =>
        rw [List.getLast?_singleton, if_neg (fun h => hlast rfl (Option.some.inj h))]
        rfl
    | cons c cs =>
        rw [List.getLast?_cons_cons, List.dropLast_cons_of_ne_nil (List.cons_ne_nil _ _)]
        split
        · rfl
        · rfl
  induction str generalizing part with
  | nil =>
      rw [splitFrom]
      split
      · rename_i hpart
        rw [hpart]
        rfl
      · rw [List.intercalate_singleton]
        exact (List.append_nil part).symm
  | cons b bs ih =>
      rw [splitFrom]
      by_cases hb : b = d
      · rw [if_pos (List.mem_singleton.mpr hb)]
        by_cases hbs : bs = []
        · -- The separator at the end starts no part.
          rw [hbs, hb, List.getLast?_singleton, if_pos rfl]
          exact List.intercalate_singleton.trans (List.append_nil part).symm
        · have hne : splitFrom [d] [] bs ≠ [] := fun h => hbs (splitFrom_eq_nil h).2
          rw [List.intercalate_cons_of_ne_nil hne, ih, hcons b bs (fun h => absurd h hbs), hb,
            List.nil_append, List.append_assoc, List.singleton_append]
      · rw [if_neg (fun h => hb (List.mem_singleton.mp h)), ih, hcons b bs (fun _ => hb),
          List.append_assoc, List.singleton_append]

/-- The first part goes on to the first separator. -/
theorem splitFrom_head (d : UInt8) {part str : Bytes} (h : part ≠ [] ∨ str ≠ []) :
    ∃ parts, splitFrom [d] part str = (part ++ str.takeWhile (· ≠ d)) :: parts := by
  induction str generalizing part with
  | nil =>
      have hpart : part ≠ [] := h.resolve_right (fun hne => hne rfl)
      rw [splitFrom, if_neg hpart, List.takeWhile_nil, List.append_nil]
      exact ⟨[], rfl⟩
  | cons b bs ih =>
      rw [splitFrom]
      by_cases hb : b = d
      · rw [if_pos (List.mem_singleton.mpr hb), List.takeWhile_cons_of_neg
          (by simp only [hb, ne_eq, not_true_eq_false, decide_false, Bool.false_eq_true,
            not_false_eq_true]), List.append_nil]
        exact ⟨_, rfl⟩
      · rw [if_neg (fun hmem => hb (List.mem_singleton.mp hmem)),
          List.takeWhile_cons_of_pos (by simp only [hb, ne_eq, not_false_eq_true, decide_true])]
        rcases ih (Or.inl (List.append_ne_nil_of_right_ne_nil part (List.cons_ne_nil b [])))
          with ⟨parts, hparts⟩
        rw [hparts, List.append_assoc, List.singleton_append]
        exact ⟨parts, rfl⟩

end

/-- The first two parts of a status line. -/
theorem replyParts_eq {h : HttpHeaders} {a rest : Bytes} (hc : h.isComplete = true)
    (hline : h.headerlines.head? = some (a ++ 32 :: rest))
    (hends : SplitEnds (a ++ 32 :: rest) [32]) (ha : 32 ∉ a) (hrest : rest ≠ []) :
    h.replyParts = .ok (a, rest.takeWhile (· ≠ 32)) := by
  have hfirst : splitOnSpace (a ++ 32 :: rest) = a :: split rest [32] := by
    have hfree : ∀ b ∈ a, b ∉ ([32] : Bytes) :=
      fun b hb hs => ha (List.mem_singleton.mp hs ▸ hb)
    have happend := splitFrom_append hfree [] (32 :: rest)
    rw [splitFrom, if_pos (List.mem_singleton.mpr rfl), List.nil_append] at happend
    exact happend
  rcases @splitFrom_head 32 [] rest (Or.inr hrest) with ⟨parts, hparts⟩
  rw [List.nil_append] at hparts
  have hhead : h.headerlines.headD [] = a ++ 32 :: rest := by
    rw [List.headD_eq_head?_getD, hline, Option.getD_some]
  simp only [replyParts, hc, Bool.not_true, Bool.false_eq_true, if_false, hhead, hends,
    not_true_eq_false, hfirst, split, hparts]

/-- A text that is not too long is split: the loops end, no part has a space in it, and the
    parts joined with spaces are the text, less a space at its end. If it is the status line
    of a complete header, the protocol is what comes before the first space, and the status
    is read from what comes between the first and the second. -/
theorem statusLine_split (s : Bytes) (hs : s.length < 2 ^ 32 - 1) :
    SplitReturns s [32] (splitOnSpace s) ∧
    (∀ parts, SplitReturns s [32] parts →
      (∀ part ∈ parts, 32 ∉ part) ∧
      [32].intercalate parts = (if s.getLast? = some 32 then s.dropLast else s) ∧
      (s = [] → parts = [])) ∧
    ∀ (h : HttpHeaders) (a rest : Bytes), h.isComplete = true → h.headerlines.head? = some s →
      s = a ++ 32 :: rest → 32 ∉ a → rest ≠ [] →
      h.getReplyProtocol = .ok a ∧ h.getReplyStatus = stoi (rest.takeWhile (· ≠ 32)) := by
  refine ⟨splitReturns_split (Or.inl hs), fun parts hparts => ?_, ?_⟩
  · -- What is returned can only be the plain split.
    rcases splitReturns_iff.mp hparts with ⟨-, rfl⟩
    refine ⟨fun part hpart hmem => ?_, ?_, ?_⟩
    · have hfree := mem_splitFrom (fun b hb => absurd hb List.not_mem_nil) part hpart 32 hmem
      exact hfree (List.mem_singleton.mpr rfl)
    · have hjoin := intercalate_splitFrom 32 [] s
      rw [List.nil_append] at hjoin
      exact hjoin
    · rintro rfl
      rfl
  · rintro h a rest hc hline rfl ha hrest
    have hparts := replyParts_eq hc hline (Or.inl hs) ha hrest
    refine ⟨?_, ?_⟩
    · rw [getReplyProtocol, hparts]
      rfl
    · rw [getReplyStatus, hparts]

/-- A short status line of a complete header. -/
theorem statusLine_split_short :
    SplitReturns [72, 32, 50, 48, 48, 32, 79] [32] [[72], [50, 48, 48], [79]] ∧
      HttpHeaders.getReplyProtocol ⟨[[72, 32, 50, 48, 48, 32, 79]], [], true⟩ = .ok [72] ∧
      HttpHeaders.getReplyStatus ⟨[[72, 32, 50, 48, 48, 32, 79]], [], true⟩ = .ok 200 := by
  have hlaw := statusLine_split [72, 32, 50, 48, 48, 32, 79] (by decide)
  exact ⟨hlaw.1, hlaw.2.2 ⟨[[72, 32, 50, 48, 48, 32, 79]], [], true⟩ [72] [50, 48, 48, 32, 79]
    rfl rfl rfl (by decide) (by decide)⟩

end Iso21177
