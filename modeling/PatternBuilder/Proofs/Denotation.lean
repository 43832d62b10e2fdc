import PatternBuilder.Proofs.Counts
import PatternBuilder.Proofs.RegexReading
import PatternBuilder.Regex.Matching

/-!
# What an expression matches

A language says which stretches of an input match, given what stands before and after: an anchor
looks at these two, and all else at the stretch alone. Each node has a language, put together from
the languages of its parts. A matcher realizes a language when its goal is reached exactly from the
ends of stretches in the language. The main statement is `Regex.search_iff`: a search succeeds when
some stretch of the text is in the language, and only then.
-/
namespace PatternBuilder.Regex

/-- A set of stretches, each with what stands before it and after it. -/
abbrev Language : Type := Text → Text → Text → Prop

namespace Language

def here : Language := fun _ taken _ => taken = []

def nowhere : Language := fun _ _ _ => False

def start : Language := fun before taken _ => before = [] ∧ taken = []

def finish : Language := fun _ taken after => taken = [] ∧ after = []

def one (accepts : Char → Bool) : Language := fun _ taken _ => ∃ c, taken = [c] ∧ accepts c = true

def sequence (first second : Language) : Language := fun before taken after =>
  ∃ a b, taken = a ++ b ∧ first before a (b ++ after) ∧ second (before ++ a) b after

def either (first second : Language) : Language := fun before taken after =>
  first before taken after ∨ second before taken after

def power (L : Language) : Nat → Language
  | 0 => here
  | n + 1 => L.sequence (power L n)

def repeated (L : Language) (q : Quantifier) : Language := fun before taken after =>
  ∃ n ∈ q.counts, L.power n before taken after

def proper (L : Language) : Language := fun before taken after => taken ≠ [] ∧ L before taken after

theorem exists_power_proper {L : Language} {n : Nat} {before taken after : Text}
    (h : L.power n before taken after) : ∃ k ≤ n, L.proper.power k before taken after := by
  induction n generalizing before taken with
  | zero => exact ⟨0, Nat.le_refl 0, h⟩
  | succ n ih =>
    obtain ⟨a, b, rfl, hfirst, hrest⟩ := h
    obtain ⟨k, hk, hproper⟩ := ih hrest
    by_cases ha : a = []
    · -- A round that takes nothing ends where it began, so it can be left out.
      subst ha
      rw [List.append_nil] at hproper
      exact ⟨k, Nat.le_succ_of_le hk, hproper⟩
    · exact ⟨k + 1, Nat.succ_le_succ hk, a, b, rfl, ⟨ha, hfirst⟩, hproper⟩

theorem power_add {L : Language} {m n : Nat} {before taken after : Text} :
    L.power (m + n) before taken after ↔ (L.power m).sequence (L.power n) before taken after := by
  induction m generalizing before taken with
  | zero =>
    rw [Nat.zero_add]
    constructor
    · intro h
      refine ⟨[], taken, rfl, rfl, ?_⟩
      rwa [List.append_nil]
    · rintro ⟨a, b, rfl, rfl, h⟩
      rwa [List.append_nil] at h
  | succ m ih =>
    rw [Nat.succ_add]
    constructor
    · rintro ⟨a, rest, rfl, hfirst, hrest⟩
      obtain ⟨b, c, rfl, hb, hc⟩ := ih.mp hrest
      refine ⟨a ++ b, c, by rw [List.append_assoc], ⟨a, b, rfl, ?_, hb⟩, ?_⟩
      · rwa [← List.append_assoc]
      · rwa [← List.append_assoc]
    · rintro ⟨_, c, rfl, ⟨a, b, rfl, hfirst, hb⟩, hc⟩
      refine ⟨a, b ++ c, by rw [List.append_assoc], ?_, ih.mpr ⟨b, c, rfl, hb, ?_⟩⟩
      · rwa [List.append_assoc]
      · rwa [List.append_assoc]

theorem power_one_iff {accepts : Char → Bool} {n : Nat} {before taken after : Text} :
    (one accepts).power n before taken after ↔
      taken.length = n ∧ ∀ c ∈ taken, accepts c = true := by
  induction n generalizing before taken with
  | zero =>
    rw [List.length_eq_zero_iff]
    constructor
    · rintro rfl
      exact ⟨rfl, nofun⟩
    · exact And.left
  | succ n ih =>
    constructor
    · rintro ⟨_, rest, rfl, ⟨c, rfl, hc⟩, hrest⟩
      obtain ⟨hlength, hall⟩ := ih.mp hrest
      exact ⟨congrArg Nat.succ hlength, List.forall_mem_cons.mpr ⟨hc, hall⟩⟩
    · rintro ⟨hlength, hall⟩
      obtain ⟨c, rest, rfl⟩ := List.exists_cons_of_length_eq_add_one hlength
      obtain ⟨hc, hrest⟩ := List.forall_mem_cons.mp hall
      exact ⟨[c], rest, rfl, ⟨c, rfl, hc⟩, ih.mpr ⟨Nat.succ.inj hlength, hrest⟩⟩

theorem repeated_one_iff {accepts : Char → Bool} {q : Quantifier} {before taken after : Text} :
    (one accepts).repeated q before taken after ↔
      taken.length ∈ q.counts ∧ ∀ c ∈ taken, accepts c = true := by
  unfold repeated
  simp only [power_one_iff]
  constructor
  · rintro ⟨_, hcount, rfl, hall⟩
    exact ⟨hcount, hall⟩
  · rintro ⟨hcount, hall⟩
    exact ⟨_, hcount, rfl, hall⟩

theorem repeated_atLeast_iff {accepts : Char → Bool} {n : Nat} {before taken after : Text} :
    (one accepts).repeated (Quantifier.atLeast n) before taken after ↔
      n ≤ taken.length ∧ ∀ c ∈ taken, accepts c = true := by
  rw [repeated_one_iff, Quantifier.mem_counts_atLeast]

theorem start_sequence_iff {L : Language} {before taken after : Text} :
    start.sequence L before taken after ↔ before = [] ∧ L before taken after := by
  constructor
  · rintro ⟨_, rest, rfl, ⟨rfl, rfl⟩, h⟩
    exact ⟨rfl, h⟩
  · rintro ⟨rfl, h⟩
    exact ⟨[], taken, rfl, ⟨rfl, rfl⟩, h⟩

theorem char_sequence_iff {c : Char} {L : Language} {before taken after : Text} :
    (one (· == c)).sequence L before taken after ↔
      ∃ rest, taken = c :: rest ∧ L (before ++ [c]) rest after := by
  constructor
  · rintro ⟨_, rest, rfl, ⟨d, rfl, hd⟩, h⟩
    obtain rfl := eq_of_beq hd
    exact ⟨rest, rfl, h⟩
  · rintro ⟨rest, rfl, h⟩
    exact ⟨[c], rest, rfl, ⟨c, rfl, beq_self_eq_true c⟩, h⟩

theorem finish_sequence_here_iff {before taken after : Text} :
    finish.sequence here before taken after ↔ taken = [] ∧ after = [] := by
  constructor
  · rintro ⟨_, _, rfl, ⟨rfl, hafter⟩, rfl⟩
    exact ⟨rfl, hafter⟩
  · rintro ⟨rfl, rfl⟩
    exact ⟨[], [], rfl, ⟨rfl, rfl⟩, rfl⟩

end Language

namespace Matcher

/-- From any position, the goal is reached at the ends of the stretches in the language. -/
def Realizes (m : Matcher) (L : Language) : Prop :=
  ∀ (goal : Goal) (before rest : Text),
    m goal { atStart := before.isEmpty, rest } = true ↔
      ∃ taken after, rest = taken ++ after ∧ L before taken after ∧
        goal { atStart := (before ++ taken).isEmpty, rest := after } = true

theorem realizes_here : here.Realizes .here := by
  intro goal before rest
  constructor
  · intro h
    refine ⟨[], rest, rfl, rfl, ?_⟩
    rwa [List.append_nil]
  · rintro ⟨_, after, rfl, rfl, h⟩
    rwa [List.append_nil] at h

theorem realizes_nowhere : nowhere.Realizes .nowhere := by
  intro goal before rest
  exact ⟨nofun, fun ⟨_, _, _, h, _⟩ => h.elim⟩

theorem realizes_start : start.Realizes .start := by
  intro goal before rest
  rw [start_apply, Bool.and_eq_true, List.isEmpty_iff]
  constructor
  · rintro ⟨rfl, h⟩
    exact ⟨[], rest, rfl, ⟨rfl, rfl⟩, h⟩
  · rintro ⟨_, after, rfl, ⟨rfl, rfl⟩, h⟩
    exact ⟨rfl, h⟩

theorem realizes_finish : finish.Realizes .finish := by
  intro goal before rest
  rw [finish_apply, Bool.and_eq_true, List.isEmpty_iff]
  constructor
  · rintro ⟨rfl, h⟩
    refine ⟨[], [], rfl, ⟨rfl, rfl⟩, ?_⟩
    rwa [List.append_nil]
  · rintro ⟨_, _, rfl, ⟨rfl, rfl⟩, h⟩
    rw [List.append_nil] at h
    exact ⟨rfl, h⟩

theorem realizes_one (accepts : Char → Bool) : (one accepts).Realizes (.one accepts) := by
  intro goal before rest
  cases rest with
  | nil =>
    rw [one_nil]
    constructor
    · exact nofun
    · rintro ⟨_, after, htaken, ⟨c, rfl, _⟩, _⟩
      exact nomatch htaken
  | cons c rest =>
    have hmoved : (before ++ [c]).isEmpty = false := by simp
    rw [one_cons, Bool.and_eq_true]
    constructor
    · rintro ⟨haccepts, h⟩
      exact ⟨[c], rest, rfl, ⟨c, rfl, haccepts⟩, by rwa [hmoved]⟩
    · rintro ⟨_, after, htaken, ⟨d, rfl, haccepts⟩, h⟩
      obtain ⟨rfl, rfl⟩ := List.cons.inj htaken
      rw [hmoved] at h
      exact ⟨haccepts, h⟩

theorem Realizes.sequence {m n : Matcher} {K L : Language} (hm : m.Realizes K)
    (hn : n.Realizes L) : (m.sequence n).Realizes (K.sequence L) := by
  intro goal before rest
  rw [sequence_apply, hm]
  constructor
  · rintro ⟨a, middle, rfl, hfirst, h⟩
    obtain ⟨b, after, rfl, hsecond, hgoal⟩ := (hn goal (before ++ a) middle).mp h
    rw [List.append_assoc] at hgoal
    exact ⟨a ++ b, after, by rw [List.append_assoc], ⟨a, b, rfl, hfirst, hsecond⟩, hgoal⟩
  · rintro ⟨_, after, rfl, ⟨a, b, rfl, hfirst, hsecond⟩, hgoal⟩
    rw [← List.append_assoc] at hgoal
    exact ⟨a, b ++ after, by rw [List.append_assoc], hfirst,
      (hn goal (before ++ a) (b ++ after)).mpr ⟨b, after, rfl, hsecond, hgoal⟩⟩

theorem Realizes.either {m n : Matcher} {K L : Language} (hm : m.Realizes K)
    (hn : n.Realizes L) : (m.either n).Realizes (K.either L) := by
  intro goal before rest
  rw [either_apply, Bool.or_eq_true, hm, hn]
  constructor
  · rintro (⟨taken, after, htext, hin, hgoal⟩ | ⟨taken, after, htext, hin, hgoal⟩)
    · exact ⟨taken, after, htext, .inl hin, hgoal⟩
    · exact ⟨taken, after, htext, .inr hin, hgoal⟩
  · rintro ⟨taken, after, htext, hin | hin, hgoal⟩
    · exact .inl ⟨taken, after, htext, hin, hgoal⟩
    · exact .inr ⟨taken, after, htext, hin, hgoal⟩

theorem Realizes.exactly {m : Matcher} {L : Language} (h : m.Realizes L) (n : Nat) :
    (m.exactly n).Realizes (L.power n) := by
  induction n with
  | zero => exact realizes_here
  | succ n ih => exact h.sequence ih

def Within (limit : Option Nat) (n : Nat) : Prop := ∀ max, limit = some max → n ≤ max

theorem within_zero (limit : Option Nat) : Within limit 0 := fun max _ => Nat.zero_le max

theorem within_succ_iff {limit : Option Nat} {n : Nat} :
    Within limit (n + 1) ↔ limit ≠ some 0 ∧ Within (limit.map (· - 1)) n := by
  cases limit with
  | none => simp [Within]
  | some max =>
    simp only [Within, Option.map_some, Option.some.injEq, forall_eq', ne_eq]
    omega

theorem rounds_cons_iff {m : Matcher} {c : Char} {fuel : Text} {limit : Option Nat} {goal : Goal}
    {p : Position} :
    m.rounds (c :: fuel) limit goal p = true ↔
      goal p = true ∨ limit ≠ some 0 ∧ m (m.rounds fuel (limit.map (· - 1)) goal) p = true := by
  match limit with
  | none =>
    rw [rounds, either_apply, Bool.or_eq_true]
    exact or_congr_right ⟨fun h => ⟨nofun, h⟩, And.right⟩
  | some 0 => exact ⟨.inl, fun h => h.elim id fun ⟨hzero, _⟩ => absurd rfl hzero⟩
  | some (n + 1) =>
    rw [rounds, either_apply, Bool.or_eq_true]
    exact or_congr_right ⟨fun h => ⟨nofun, h⟩, And.right⟩

theorem Realizes.exists_power_of_rounds {m : Matcher} {L : Language} (h : m.Realizes L)
    {fuel : Text} {limit : Option Nat} {goal : Goal} {before rest : Text}
    (hrounds : m.rounds fuel limit goal { atStart := before.isEmpty, rest } = true) :
    ∃ n taken after, Within limit n ∧ rest = taken ++ after ∧ L.power n before taken after ∧
      goal { atStart := (before ++ taken).isEmpty, rest := after } = true := by
  induction fuel generalizing limit before rest with
  | nil =>
    obtain ⟨taken, after, hrest, hhere, hgoal⟩ := (realizes_here goal before rest).mp hrounds
    exact ⟨0, taken, after, within_zero limit, hrest, hhere, hgoal⟩
  | cons c fuel ih =>
    rcases rounds_cons_iff.mp hrounds with hgoal | ⟨hlimit, hround⟩
    · obtain ⟨taken, after, hrest, hhere, hgoal⟩ := (realizes_here goal before rest).mp hgoal
      exact ⟨0, taken, after, within_zero limit, hrest, hhere, hgoal⟩
    · obtain ⟨a, middle, rfl, hfirst, hmore⟩ := (h _ before rest).mp hround
      obtain ⟨n, b, after, hn, rfl, hpower, hgoal⟩ := ih hmore
      rw [List.append_assoc] at hgoal
      exact ⟨n + 1, a ++ b, after, within_succ_iff.mpr ⟨hlimit, hn⟩, by rw [List.append_assoc],
        ⟨a, b, rfl, hfirst, hpower⟩, hgoal⟩

theorem Realizes.rounds_of_power {m : Matcher} {L : Language} (h : m.Realizes L) {n : Nat}
    {fuel : Text} {limit : Option Nat} {goal : Goal} {before taken after : Text}
    (hlimit : Within limit n) (hfuel : taken.length ≤ fuel.length)
    (hpower : L.proper.power n before taken after)
    (hgoal : goal { atStart := (before ++ taken).isEmpty, rest := after } = true) :
    m.rounds fuel limit goal { atStart := before.isEmpty, rest := taken ++ after } = true := by
  induction fuel generalizing n limit before taken with
  | nil =>
    -- Each round takes a character, so that none is left when the fuel is spent.
    obtain rfl := List.eq_nil_of_length_eq_zero (Nat.le_zero.mp hfuel)
    rw [List.append_nil] at hgoal
    exact hgoal
  | cons c fuel ih =>
    rw [rounds_cons_iff]
    cases n with
    | zero =>
      obtain rfl : taken = [] := hpower
      rw [List.append_nil] at hgoal
      exact .inl hgoal
    | succ n =>
      obtain ⟨a, b, rfl, ⟨hne, hfirst⟩, hrest⟩ := hpower
      obtain ⟨hzero, hless⟩ := within_succ_iff.mp hlimit
      have hpositive : 0 < a.length := List.length_pos_iff.mpr hne
      rw [List.length_append, List.length_cons] at hfuel
      rw [← List.append_assoc] at hgoal
      refine .inr ⟨hzero, (h _ before _).mpr ⟨a, b ++ after, List.append_assoc _ _ _, hfirst, ?_⟩⟩
      exact ih hless (by omega) hrest hgoal

theorem Realizes.atMost_iff {m : Matcher} {L : Language} (h : m.Realizes L) (limit : Option Nat)
    (goal : Goal) (before rest : Text) :
    m.atMost limit goal { atStart := before.isEmpty, rest } = true ↔
      ∃ n taken after, Within limit n ∧ rest = taken ++ after ∧ L.power n before taken after ∧
        goal { atStart := (before ++ taken).isEmpty, rest := after } = true := by
  constructor
  · exact h.exists_power_of_rounds
  · rintro ⟨n, taken, after, hlimit, rfl, hpower, hgoal⟩
    obtain ⟨k, hk, hproper⟩ := Language.exists_power_proper hpower
    have hfuel : taken.length ≤ (taken ++ after).length := by simp
    exact h.rounds_of_power (fun max hmax => Nat.le_trans hk (hlimit max hmax)) hfuel hproper hgoal

theorem Realizes.repeated {m : Matcher} {L : Language} (h : m.Realizes L) {q : Quantifier}
    (hq : q.Normal) : (m.repeated q).Realizes (L.repeated q) := by
  intro goal before rest
  rw [Matcher.repeated, sequence_apply, h.exactly]
  constructor
  · rintro ⟨a, middle, rfl, hfirst, hmore⟩
    obtain ⟨n, b, after, hn, rfl, hpower, hgoal⟩ := (h.atMost_iff _ _ _ _).mp hmore
    rw [List.append_assoc] at hgoal
    refine ⟨a ++ b, after, by rw [List.append_assoc], ⟨q.min + n, ⟨Nat.le_add_right _ _, ?_⟩,
      Language.power_add.mpr ⟨a, b, rfl, hfirst, hpower⟩⟩, hgoal⟩
    intro max hmax
    have hle := hn (max - q.min) (by rw [hmax]; rfl)
    have hbounds := (hq.max_bounds max hmax).2.1
    omega
  · rintro ⟨_, after, rfl, ⟨k, ⟨hmin, hmax⟩, hpower⟩, hgoal⟩
    obtain ⟨n, rfl⟩ := Nat.exists_eq_add_of_le hmin
    obtain ⟨a, b, rfl, hfirst, hrest⟩ := Language.power_add.mp hpower
    rw [← List.append_assoc] at hgoal
    refine ⟨a, b ++ after, by rw [List.append_assoc], hfirst,
      (h.atMost_iff _ _ _ _).mpr ⟨n, b, after, ?_, rfl, hrest, hgoal⟩⟩
    intro max hlimit
    obtain ⟨bound, hbound, rfl⟩ := Option.map_eq_some_iff.mp hlimit
    have hle := hmax bound hbound
    omega

theorem Realizes.matchesAt_iff {m : Matcher} {L : Language} (h : m.Realizes L)
    (before rest : Text) :
    m.matchesAt { atStart := before.isEmpty, rest } = true ↔
      ∃ taken after, rest = taken ++ after ∧ L before taken after := by
  rw [matchesAt, h]
  simp only [and_true]

theorem Realizes.matchesFrom_iff {m : Matcher} {L : Language} (h : m.Realizes L)
    (before text : Text) :
    m.matchesFrom before.isEmpty text = true ↔
      ∃ skipped taken after, text = skipped ++ (taken ++ after) ∧
        L (before ++ skipped) taken after := by
  induction text generalizing before with
  | nil =>
    rw [matchesFrom, h.matchesAt_iff]
    constructor
    · rintro ⟨taken, after, htext, hin⟩
      exact ⟨[], taken, after, htext, by rwa [List.append_nil]⟩
    · rintro ⟨skipped, taken, after, htext, hin⟩
      obtain ⟨rfl, hrest⟩ := List.append_eq_nil_iff.mp htext.symm
      rw [List.append_nil] at hin
      exact ⟨taken, after, hrest.symm, hin⟩
  | cons c text ih =>
    have hmoved : (before ++ [c]).isEmpty = false := by simp
    have hlater := ih (before ++ [c])
    rw [hmoved] at hlater
    rw [matchesFrom, Bool.or_eq_true, h.matchesAt_iff, hlater]
    constructor
    · rintro (⟨taken, after, htext, hin⟩ | ⟨skipped, taken, after, rfl, hin⟩)
      · exact ⟨[], taken, after, htext, by rwa [List.append_nil]⟩
      · rw [List.append_assoc] at hin
        exact ⟨c :: skipped, taken, after, rfl, hin⟩
    · rintro ⟨skipped, taken, after, htext, hin⟩
      cases skipped with
      | nil =>
        rw [List.append_nil] at hin
        exact .inl ⟨taken, after, htext, hin⟩
      | cons d skipped =>
        obtain ⟨rfl, rfl⟩ := List.cons.inj htext
        refine .inr ⟨skipped, taken, after, rfl, ?_⟩
        rwa [List.append_assoc]

end Matcher

namespace Node

mutual

def language : Node → Language
  | .char c => .one (· == c)
  | .digit => .one Text.isDecimalDigit
  | .word => .nowhere
  | .lineStart => .start
  | .lineEnd => .finish
  | .cls body => ((ClassBody.set? body).map Language.one).getD .nowhere
  | .group _ branches => branchesLanguage branches
  | .repeated node q => node.language.repeated q

def sequenceLanguage : List Node → Language
  | [] => .here
  | node :: nodes => node.language.sequence (sequenceLanguage nodes)

def branchesLanguage : List (List Node) → Language
  | [] => .nowhere
  | branch :: branches => (sequenceLanguage branch).either (branchesLanguage branches)

end

mutual

theorem realizes_language (node : Node) (h : node.Legible) {m : Matcher}
    (hm : node.matcher? = some m) : m.Realizes node.language := by
  cases node with
  | char c | digit =>
    obtain rfl := Option.some.inj hm
    exact Matcher.realizes_one _
  | word => exact nomatch hm
  | lineStart =>
    obtain rfl := Option.some.inj hm
    exact Matcher.realizes_start
  | lineEnd =>
    obtain rfl := Option.some.inj hm
    exact Matcher.realizes_finish
  | cls body =>
    obtain ⟨set, hset, rfl⟩ := Option.map_eq_some_iff.mp hm
    rw [language, hset]
    exact Matcher.realizes_one set
  | group name branches => exact realizes_branchesLanguage branches h.2.2 hm
  | repeated node q =>
    obtain ⟨⟨_, hnode⟩, hq, _⟩ := h
    obtain ⟨inner, hinner, rfl⟩ := Option.map_eq_some_iff.mp hm
    exact (realizes_language node hnode hinner).repeated hq

theorem realizes_sequenceLanguage (nodes : List Node) (h : LegibleAll nodes) {m : Matcher}
    (hm : sequenceMatcher? nodes = some m) : m.Realizes (sequenceLanguage nodes) := by
  cases nodes with
  | nil =>
    obtain rfl := Option.some.inj hm
    exact Matcher.realizes_here
  | cons node nodes =>
    obtain ⟨first, hfirst, hrest⟩ := Option.bind_eq_some_iff.mp hm
    obtain ⟨second, hsecond, heq⟩ := Option.bind_eq_some_iff.mp hrest
    obtain rfl := Option.some.inj heq
    exact (realizes_language node h.1 hfirst).sequence (realizes_sequenceLanguage nodes h.2 hsecond)

theorem realizes_branchesLanguage (branches : List (List Node)) (h : LegibleBranches branches)
    {m : Matcher} (hm : branchesMatcher? branches = some m) :
    m.Realizes (branchesLanguage branches) := by
  cases branches with
  | nil =>
    obtain rfl := Option.some.inj hm
    exact Matcher.realizes_nowhere
  | cons branch branches =>
    obtain ⟨first, hfirst, hrest⟩ := Option.bind_eq_some_iff.mp hm
    obtain ⟨second, hsecond, heq⟩ := Option.bind_eq_some_iff.mp hrest
    obtain rfl := Option.some.inj heq
    exact (realizes_sequenceLanguage branch h.1 hfirst).either
      (realizes_branchesLanguage branches h.2 hsecond)

end

end Node

/-- Some stretch of the text is in the language of the expression with this source. -/
def Occurs (source text : Text) : Prop :=
  ∃ nodes, read? source = some nodes ∧
    ∃ before taken after, text = before ++ (taken ++ after) ∧
      Node.sequenceLanguage nodes before taken after

theorem search_iff {nodes : List Node} (h : Node.LegibleAll nodes) {m : Matcher}
    (hm : compile? (Node.renderAll nodes) = some m) (text : Text) :
    m.search text = true ↔ Occurs (Node.renderAll nodes) text := by
  have hread := read?_renderAll h
  rw [compile?, hread] at hm
  have hfrom : m.search text = true ↔ _ :=
    (Node.realizes_sequenceLanguage nodes h hm).matchesFrom_iff [] text
  rw [hfrom]
  constructor
  · rintro ⟨before, taken, after, htext, hin⟩
    exact ⟨nodes, hread, before, taken, after, htext, hin⟩
  · rintro ⟨nodes', hread', before, taken, after, htext, hin⟩
    rw [hread] at hread'
    obtain rfl := Option.some.inj hread'
    exact ⟨before, taken, after, htext, hin⟩

end PatternBuilder.Regex
