import Mathlib.Data.List.DropRight
import PatternBuilder.Text.Basic

/-!
# Cutting text

A text is cut at the first or at the last place where a character stands. When the character is not
in the one part, the cut gives both parts back.
-/
namespace PatternBuilder.Text

theorem ne_of_notMem {a : Text} {c : Char} (h : c ∉ a) : ∀ d ∈ a, decide (d ≠ c) = true :=
  fun _ hd => decide_eq_true fun heq => h (heq ▸ hd)

theorem takeWhile_cut {a : Text} {c : Char} (h : c ∉ a) (b : Text) :
    (a ++ c :: b).takeWhile (· ≠ c) = a := by
  rw [List.takeWhile_append_of_pos (ne_of_notMem h), List.takeWhile_cons_of_neg (by simp),
    List.append_nil]

theorem dropWhile_cut {a : Text} {c : Char} (h : c ∉ a) (b : Text) :
    (a ++ c :: b).dropWhile (· ≠ c) = c :: b := by
  rw [List.dropWhile_append_of_pos (ne_of_notMem h), List.dropWhile_cons_of_neg (by simp)]

theorem rtakeWhile_cut (a : Text) {b : Text} {c : Char} (h : c ∉ b) :
    (a ++ c :: b).rtakeWhile (· ≠ c) = b := by
  have hreverse : c ∉ b.reverse := fun hc => h (List.mem_reverse.mp hc)
  rw [List.rtakeWhile, List.reverse_append, List.reverse_cons, List.append_assoc,
    List.singleton_append, takeWhile_cut hreverse, List.reverse_reverse]

theorem rdropWhile_cut (a : Text) {b : Text} {c : Char} (h : c ∉ b) :
    (a ++ c :: b).rdropWhile (· ≠ c) = a ++ [c] := by
  have hreverse : c ∉ b.reverse := fun hc => h (List.mem_reverse.mp hc)
  rw [List.rdropWhile, List.reverse_append, List.reverse_cons, List.append_assoc,
    List.singleton_append, dropWhile_cut hreverse, List.reverse_cons, List.reverse_reverse]

theorem exists_last_cut {text : Text} {c : Char} (h : c ∈ text) :
    ∃ a b, text = a ++ c :: b ∧ c ∉ b := by
  obtain ⟨b, a, hreverse, hb⟩ := List.eq_append_cons_of_mem (List.mem_reverse.mpr h)
  refine ⟨a.reverse, b.reverse, ?_, fun hc => hb (List.mem_reverse.mp hc)⟩
  rw [← List.reverse_reverse text, hreverse, List.reverse_append, List.reverse_cons,
    List.append_assoc, List.singleton_append]

theorem cut_inj_last {a b s t : Text} {c : Char} (hs : c ∉ s) (ht : c ∉ t)
    (h : a ++ c :: s = b ++ c :: t) : a = b ∧ s = t := by
  have hbehind : s = t := by
    rw [← rtakeWhile_cut a hs, h, rtakeWhile_cut b ht]
  subst hbehind
  exact ⟨List.append_cancel_right h, rfl⟩

end PatternBuilder.Text
