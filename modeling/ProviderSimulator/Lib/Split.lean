/-
**Texts split at a character.**

`text.splitOn` with a separator of one character is the split of the characters of the text. So splitting the joined parts
gives the parts back, as long as there is one and none holds the separator.

* `splitOn_char` — the split of a text by the split of its characters;
* `notMem_of_splitOn` — no part holds the separator;
* `splitOn_intercalate` — **the parts of joined parts**.
-/

import Mathlib.Tactic.Common
import Mathlib.Data.String.Basic

namespace ProviderSimulator.Lib.Split

open String

/-- The separator of one character. -/
def separator (char : Char) : String := ofList [char]

section

variable (char : Char)

theorem atEnd_ofList (front back : List Char) :
    Pos.Raw.atEnd (ofList (front ++ back)) ⟨utf8Len front⟩ = true ↔ back = [] := by
  rw [atEnd_iff, rawEndPos_ofList, utf8Len_append, Pos.Raw.mk_le_mk]
  have size : utf8Len back = 0 ↔ back = [] := utf8Len_eq_zero
  rw [← size]
  omega

/-- The separator has been seen after its one character. -/
theorem separator_seen :
    Pos.Raw.get (separator char) 0 = char ∧ Pos.Raw.next (separator char) 0 = ⟨char.utf8Size⟩ ∧
      Pos.Raw.atEnd (separator char) ⟨char.utf8Size⟩ = true := by
  refine ⟨get_of_valid [] [char], ?_, ?_⟩
  · have next := next_of_valid [] char []
    simpa [separator] using next
  · have ends := (atEnd_ofList [char] []).mpr rfl
    simpa [separator] using ends

/-- **The loop of the split**, where it has read some of the part that it is in. -/
theorem splitOnAux_char (front part rest : List Char) (parts : List String) :
    splitOnAux (ofList (front ++ part ++ rest)) (separator char) ⟨utf8Len front⟩ ⟨utf8Len front + utf8Len part⟩ 0 parts =
      parts.reverse ++ (rest.splitOnPPrepend (· == char) part.reverse).map ofList := by
  induction rest generalizing front part parts with
  | nil =>
      have ends : Pos.Raw.atEnd (ofList (front ++ part ++ [])) ⟨utf8Len front + utf8Len part⟩ = true := by
        rw [← utf8Len_append]
        exact (atEnd_ofList (front ++ part) []).mpr rfl
      rw [splitOnAux, if_pos ends, extract_of_valid front part []]
      simp
  | cons next rest ih =>
      have goes : ¬ Pos.Raw.atEnd (ofList (front ++ part ++ next :: rest)) ⟨utf8Len front + utf8Len part⟩ = true := by
        rw [← utf8Len_append, atEnd_ofList]
        exact List.cons_ne_nil next rest
      have reads : Pos.Raw.get (ofList (front ++ part ++ next :: rest)) ⟨utf8Len front + utf8Len part⟩ = next := by
        rw [← utf8Len_append]
        exact get_of_valid (front ++ part) (next :: rest)
      have steps : Pos.Raw.next (ofList (front ++ part ++ next :: rest)) ⟨utf8Len front + utf8Len part⟩ =
          ⟨utf8Len front + utf8Len part + next.utf8Size⟩ := by
        rw [← utf8Len_append]
        exact next_of_valid (front ++ part) next rest
      have cut := extract_of_valid front part (next :: rest)
      obtain ⟨first, after, seen⟩ := separator_seen char
      rw [splitOnAux, if_neg goes, reads, first]
      by_cases same : next = char
      · subst same
        have back : (⟨utf8Len front + utf8Len part + next.utf8Size⟩ : Pos.Raw).unoffsetBy ⟨next.utf8Size⟩ =
            ⟨utf8Len front + utf8Len part⟩ := by
          simp [Pos.Raw.unoffsetBy]
        have split := ih (front ++ part ++ [next]) [] (ofList part :: parts)
        simp only [List.append_assoc, List.singleton_append, utf8Len_append, utf8Len_cons, utf8Len_nil,
          Nat.add_zero, Nat.zero_add, List.append_nil, List.reverse_nil] at split
        simp only [beq_self_eq_true, if_true, steps, after, seen, back, cut]
        simp only [List.append_assoc, ← Nat.add_assoc] at split ⊢
        rw [split, List.splitOnPPrepend_cons_eq_if, if_pos (by simp)]
        simp
      · have differ : ¬ (next == char) = true := by simpa using same
        have back : (⟨utf8Len front + utf8Len part⟩ : Pos.Raw).unoffsetBy 0 = ⟨utf8Len front + utf8Len part⟩ := rfl
        have split := ih front (part ++ [next]) parts
        simp only [List.append_assoc, List.singleton_append, utf8Len_append, utf8Len_cons, utf8Len_nil,
          Nat.zero_add, List.reverse_append, List.reverse_singleton] at split
        rw [if_neg differ, back, steps]
        simp only [List.append_assoc, ← Nat.add_assoc] at split ⊢
        rw [split, List.splitOnPPrepend_cons_eq_if, if_neg differ]

/-- **The split of a text** is the split of its characters. -/
theorem splitOn_char (text : String) : text.splitOn (separator char) = (text.toList.splitOn char).map ofList := by
  have split := splitOnAux_char char [] [] text.toList []
  have given : ¬ (separator char == "") = true := by simp [separator]
  unfold splitOn
  rw [if_neg given]
  simpa [List.splitOn] using split

theorem notMem_of_mem_splitOn {chars part : List Char} (member : part ∈ chars.splitOn char) : char ∉ part := by
  induction chars generalizing part with
  | nil =>
      rw [List.splitOn_nil, List.mem_singleton] at member
      rw [member]
      exact List.not_mem_nil
  | cons next chars ih =>
      rw [List.splitOn_cons_eq_if_modifyHead] at member
      by_cases same : (next == char) = true
      · rw [if_pos same] at member
        rcases List.mem_cons.mp member with rfl | later
        · exact List.not_mem_nil
        · exact ih later
      · rw [if_neg same] at member
        obtain ⟨first, others, split⟩ := List.exists_cons_of_ne_nil (List.splitOn_ne_nil char chars)
        rw [split, List.modifyHead_cons] at member
        rcases List.mem_cons.mp member with rfl | later
        · have different : char ≠ next := fun equal => same (by simp [equal])
          rw [List.mem_cons, not_or]
          exact ⟨different, ih (split ▸ List.mem_cons_self)⟩
        · exact ih (split ▸ List.mem_cons_of_mem first later)

/-- No part holds the separator. -/
theorem notMem_of_splitOn {text part : String} (member : part ∈ text.splitOn (separator char)) : char ∉ part.toList := by
  rw [splitOn_char] at member
  obtain ⟨chars, listed, rfl⟩ := List.mem_map.mp member
  rw [toList_ofList]
  exact notMem_of_mem_splitOn char listed

theorem splitOn_ne_nil (text : String) : text.splitOn (separator char) ≠ [] := by
  rw [splitOn_char]
  exact fun none => List.splitOn_ne_nil char text.toList (List.map_eq_nil_iff.mp none)

/-- **The parts of joined parts.** -/
theorem splitOn_intercalate {parts : List String} (given : parts ≠ []) (clean : ∀ part ∈ parts, char ∉ part.toList) :
    ((separator char).intercalate parts).splitOn (separator char) = parts := by
  have chars : ((separator char).intercalate parts).toList = [char].intercalate (parts.map String.toList) := by
    rw [toList_intercalate, separator, toList_ofList]
  have split : ([char].intercalate (parts.map String.toList)).splitOn char = parts.map String.toList := by
    refine List.splitOn_intercalate char ?_ (fun none => given (List.map_eq_nil_iff.mp none))
    intro part member
    obtain ⟨text, listed, rfl⟩ := List.mem_map.mp member
    exact clean text listed
  rw [splitOn_char, chars, split, List.map_map]
  exact List.map_id'' (fun text => String.ofList_toList) parts

/-- The joined parts of a text. -/
theorem intercalate_splitOn (text : String) : (separator char).intercalate (text.splitOn (separator char)) = text := by
  refine String.toList_inj.mp ?_
  rw [toList_intercalate, splitOn_char, separator, toList_ofList, List.map_map]
  have same : toList ∘ ofList = id := funext fun chars => toList_ofList
  rw [same, List.map_id, List.intercalate_splitOn]

end

end ProviderSimulator.Lib.Split
