import KernelLog.Process
import Mathlib.Data.Char
import Mathlib.Tactic.SplitIfs

/-!
# Where a threshold comes from

A threshold is looked up in three places: in the property of the tag, in the property for
all tags, and in the configuration itself. They are not alike in what makes them count. A
property that is missing or empty is passed over; one that says something counts, and if
what it says begins with no known letter, the configuration decides and not the next
property. The configuration always decides.

`IsThreshold` says this without the lookup. There is exactly one threshold for every
configuration and tag, it is one of six priorities, and the answer is whether a priority
reaches it.
-/

namespace KernelLog

open Bytes

/-! ## The rule -/

namespace Threshold

/-- The letters that name a priority, each with the priority that it names. -/
def letters : List (Char × Priority) :=
  [('E', .error), ('W', .warn), ('I', .info), ('D', .debug), ('V', .verbose), ('S', .silent)]

/-- A value names a priority if its first byte is the letter of the priority. -/
def Names (value : String) (priority : Priority) : Prop :=
  ∃ letter rest, (letter, priority) ∈ letters ∧ ofText value = letter.toUInt8 :: rest

/-- The property of a tag says something: it is there and not empty. -/
def HasOwn (properties : Properties) (tag : Option String) (value : String) : Prop :=
  ∃ name, tag = some name ∧ properties.lookup (key name) = some value ∧ value ≠ ""

/-- The value that governs a tag: its own, or else the one for all tags. -/
inductive Governs (properties : Properties) (tag : Option String) (value : String) : Prop
  | own (has : HasOwn properties tag value)
  | common (hasNone : ∀ other, ¬ HasOwn properties tag other)
      (found : properties.lookup defaultKey = some value) (filled : value ≠ "")

/-- A configuration falls back to a priority if its character is the letter of it, and to info if
its character is no letter. -/
inductive FallsBackTo (config : Config) : Priority → Prop
  | named {priority : Priority} (named : (config.fallbackPriority, priority) ∈ letters) :
      FallsBackTo config priority
  | unnamed (nameless : ∀ other, (config.fallbackPriority, other) ∉ letters) :
      FallsBackTo config .info

/-- The threshold of a tag is the priority that its governing value names. If there is no such value
or it names none, it is the one that the configuration falls back to. -/
inductive IsThreshold (config : Config) (tag : Option String) (priority : Priority) : Prop
  | named {value : String} (governs : Governs config.properties tag value)
      (names : Names value priority)
  | unnamed {value : String} (governs : Governs config.properties tag value)
      (nameless : ∀ other, ¬ Names value other) (fallsBack : FallsBackTo config priority)
  | ungoverned (free : ∀ value, ¬ Governs config.properties tag value)
      (fallsBack : FallsBackTo config priority)

/-! ## The lookup follows the rule -/

/-- A byte names a priority exactly when it is the letter of it. -/
theorem ofPropertyByte_iff (byte : UInt8) (priority : Priority) :
    Priority.ofPropertyByte? byte = some priority ↔
      ∃ letter, (letter, priority) ∈ letters ∧ byte = letter.toUInt8 := by
  constructor
  · intro named
    unfold Priority.ofPropertyByte? at named
    simp only [beq_iff_eq] at named
    split_ifs at named with e w i d v s <;> obtain rfl := Option.some.inj named
    · exact ⟨'E', by decide, e⟩
    · exact ⟨'W', by decide, w⟩
    · exact ⟨'I', by decide, i⟩
    · exact ⟨'D', by decide, d⟩
    · exact ⟨'V', by decide, v⟩
    · exact ⟨'S', by decide, s⟩
  · rintro ⟨letter, member, rfl⟩
    have each : ∀ entry ∈ letters, Priority.ofPropertyByte? entry.1.toUInt8 = some entry.2 := by
      decide
    exact each _ member

/-- A configuration's character names a priority exactly when it is the letter of it. -/
theorem fallbackOfLetter_iff (letter : Char) (priority : Priority) :
    Config.fallbackOfLetter? letter = some priority ↔ (letter, priority) ∈ letters := by
  constructor
  · intro named
    unfold Config.fallbackOfLetter? at named
    split_ifs at named with narrow
    obtain ⟨known, member, same⟩ := (ofPropertyByte_iff _ _).mp named
    -- The bytes are the codes modulo 256, and both codes are below that: one is a letter's, the
    -- other was asked before it was cut.
    have small : ∀ entry ∈ letters, entry.1.toNat < 256 := by decide
    have codes : letter.toNat % 256 = known.toNat % 256 := by
      have bytes := congrArg UInt8.toNat same
      rwa [UInt8.toNat_ofNat', Char.toUInt8, UInt32.toNat_toUInt8] at bytes
    rw [Nat.mod_eq_of_lt narrow, Nat.mod_eq_of_lt (small _ member), Char.toNat_inj] at codes
    exact codes ▸ member
  · intro member
    have each : ∀ entry ∈ letters, Config.fallbackOfLetter? entry.1 = some entry.2 := by decide
    exact each _ member

/-- A configuration falls back to one priority, which is its fallback. -/
theorem fallsBack_iff (config : Config) (priority : Priority) :
    FallsBackTo config priority ↔ priority = config.fallback := by
  cases found : Config.fallbackOfLetter? config.fallbackPriority with
  | none =>
    have nameless : ∀ other, (config.fallbackPriority, other) ∉ letters := by
      intro other member
      rw [← fallbackOfLetter_iff, found] at member
      cases member
    rw [Config.fallback, found, Option.getD_none]
    constructor
    · rintro (named | _)
      · exact absurd named (nameless _)
      · rfl
    · rintro rfl
      exact .unnamed nameless
  | some known =>
    have member := (fallbackOfLetter_iff _ _).mp found
    rw [Config.fallback, found, Option.getD_some]
    constructor
    · rintro (named | nameless)
      · rw [← fallbackOfLetter_iff, found] at named
        exact (Option.some.inj named).symm
      · exact absurd member (nameless _)
    · rintro rfl
      exact .named member

/-- The priority that the first byte of a value names. -/
def named? (value : String) : Option Priority :=
  (ofText value).head?.bind Priority.ofPropertyByte?

/-- A value names a priority exactly when its first byte does. -/
theorem names_iff (value : String) (priority : Priority) :
    Names value priority ↔ named? value = some priority := by
  cases shape : ofText value with
  | nil => simp [Names, named?, shape]
  | cons first rest =>
    rw [named?, shape, List.head?_cons, Option.bind_some, ofPropertyByte_iff]
    constructor
    · rintro ⟨letter, others, member, same⟩
      rw [shape] at same
      exact ⟨letter, member, (List.cons.inj same).1⟩
    · rintro ⟨letter, member, rfl⟩
      exact ⟨letter, rest, member, shape⟩

/-- A property counts if it is there and not empty. -/
theorem value_iff (properties : Properties) (name value : String) :
    value? properties name = some value ↔ properties.lookup name = some value ∧ value ≠ "" := by
  simp [value?, Option.filter_eq_some_iff]

/-- The property of a tag counts under the same condition, provided that there is a tag. -/
theorem hasOwn_iff (properties : Properties) (tag : Option String) (value : String) :
    HasOwn properties tag value ↔
      (tag.bind fun name => value? properties (key name)) = some value := by
  simp only [HasOwn, Option.bind_eq_some_iff, value_iff]

/-- The value that the lookup stops at. -/
def governing? (properties : Properties) (tag : Option String) : Option String :=
  (tag.bind fun name => value? properties (key name)).or (value? properties defaultKey)

/-- The lookup stops at the value that governs the tag. -/
theorem governs_iff (properties : Properties) (tag : Option String) (value : String) :
    Governs properties tag value ↔ governing? properties tag = some value := by
  cases own : tag.bind fun name => value? properties (key name) with
  | none =>
    have hasNone : ∀ other, ¬ HasOwn properties tag other := by
      intro other has
      rw [hasOwn_iff, own] at has
      cases has
    rw [governing?, own, Option.none_or, value_iff]
    constructor
    · rintro (has | ⟨_, found, filled⟩)
      · exact absurd has (hasNone value)
      · exact ⟨found, filled⟩
    · rintro ⟨found, filled⟩
      exact .common hasNone found filled
  | some other =>
    have has : HasOwn properties tag other := (hasOwn_iff _ _ _).mpr own
    rw [governing?, own, Option.some_or, Option.some.injEq]
    constructor
    · rintro (same | ⟨hasNone, _, _⟩)
      · rw [hasOwn_iff, own] at same
        exact Option.some.inj same
      · exact absurd has (hasNone other)
    · rintro rfl
      exact .own has

/-- The threshold is what the first byte of that value names, or else the fallback. -/
theorem threshold_eq (properties : Properties) (tag : Option String) (fallback : Priority) :
    threshold properties tag fallback =
      ((governing? properties tag).bind named?).getD fallback := by
  have stops : ((tag.bind fun name => value? properties (key name)) <|>
      value? properties defaultKey) = governing? properties tag := by
    rw [governing?]
    cases tag.bind fun name => value? properties (key name) <;> rfl
  simp only [threshold, stops]
  cases governing? properties tag with
  | none => rfl
  | some value =>
    rw [Option.bind_some, named?]
    dsimp only
    cases ofText value <;> rfl

/-- Every tag has one threshold under a configuration, and it is the one that is looked up. -/
theorem isThreshold_iff (config : Config) (tag : Option String) (priority : Priority) :
    IsThreshold config tag priority ↔
      priority = threshold config.properties tag config.fallback := by
  rw [threshold_eq]
  -- The cases are the three of the rule, in the order of the lookup; in each of them the rule's
  -- other two contradict what was found.
  cases found : governing? config.properties tag with
  | none =>
    have free : ∀ value, ¬ Governs config.properties tag value := by
      intro value governs
      rw [governs_iff, found] at governs
      cases governs
    rw [Option.bind_none, Option.getD_none, ← fallsBack_iff]
    constructor
    · rintro (⟨governs, _⟩ | ⟨governs, _, _⟩ | ⟨_, fallsBack⟩)
      · exact absurd governs (free _)
      · exact absurd governs (free _)
      · exact fallsBack
    · intro fallsBack
      exact .ungoverned free fallsBack
  | some value =>
    have governs : Governs config.properties tag value := (governs_iff _ _ _).mpr found
    have only : ∀ other, Governs config.properties tag other → other = value := by
      intro other same
      rw [governs_iff, found] at same
      exact (Option.some.inj same).symm
    rw [Option.bind_some]
    cases named : named? value with
    | none =>
      have nameless : ∀ other, ¬ Names value other := by
        intro other names
        rw [names_iff, named] at names
        cases names
      rw [Option.getD_none, ← fallsBack_iff]
      constructor
      · rintro (⟨same, names⟩ | ⟨_, _, fallsBack⟩ | ⟨free, _⟩)
        · exact absurd (only _ same ▸ names) (nameless _)
        · exact fallsBack
        · exact absurd governs (free value)
      · intro fallsBack
        exact .unnamed governs nameless fallsBack
    | some known =>
      have names : Names value known := (names_iff _ _).mpr named
      rw [Option.getD_some]
      constructor
      · rintro (⟨same, others⟩ | ⟨same, nameless, _⟩ | ⟨free, _⟩)
        · rw [only _ same, names_iff, named] at others
          exact (Option.some.inj others).symm
        · exact absurd (only _ same ▸ names) (nameless known)
        · exact absurd governs (free value)
      · rintro rfl
        exact .named governs names

/-! ## What follows from the rule -/

/-- A text that is not empty has a first byte. -/
theorem exists_first_byte (value : String) (filled : value ≠ "") :
    ∃ first rest, ofText value = first :: rest := by
  obtain ⟨letter, others, shape⟩ : ∃ letter others, value.toList = letter :: others :=
    List.exists_cons_of_ne_nil fun empty => filled (String.toList_eq_nil_iff.mp empty)
  have wide : String.utf8EncodeChar letter ≠ [] := by
    rw [← List.length_pos_iff, String.length_utf8EncodeChar]
    exact letter.utf8Size_pos
  refine List.exists_cons_of_ne_nil fun empty => wide ?_
  rw [ofText, shape, List.flatMap_cons, List.append_eq_nil_iff] at empty
  exact empty.1

/-- A value that governs a tag is not empty. -/
theorem Governs.filled {properties : Properties} {tag : Option String} {value : String}
    (governs : Governs properties tag value) : value ≠ "" := by
  obtain ⟨_, _, _, filled⟩ | ⟨_, _, filled⟩ := governs
  · exact filled
  · exact filled

/-- Every threshold has a letter. -/
theorem IsThreshold.exists_letter {config : Config} {tag : Option String} {priority : Priority}
    (least : IsThreshold config tag priority) : ∃ letter, (letter, priority) ∈ letters := by
  have ofFallback : FallsBackTo config priority → ∃ letter, (letter, priority) ∈ letters := by
    rintro (named | _)
    · exact ⟨_, named⟩
    · exact ⟨'I', by decide⟩
  obtain ⟨_, letter, _, member, _⟩ | ⟨_, _, fallsBack⟩ | ⟨_, fallsBack⟩ := least
  · exact ⟨letter, member⟩
  · exact ofFallback fallsBack
  · exact ofFallback fallsBack

/-- Each of the six priorities lies above the two that stand for nothing and is reached by silent,
and only silent is above fatal. -/
theorem letters_between {priority : Priority} (named : ∃ letter, (letter, priority) ∈ letters) :
    ¬ priority ≤ .unknown ∧ ¬ priority ≤ .default ∧ priority ≤ .silent ∧
      (¬ priority ≤ .fatal ↔ priority = .silent) := by
  obtain ⟨letter, member⟩ := named
  have each : ∀ entry ∈ letters, ¬ entry.2 ≤ .unknown ∧ ¬ entry.2 ≤ .default ∧
      entry.2 ≤ .silent ∧ (¬ entry.2 ≤ .fatal ↔ entry.2 = .silent) := by decide
  exact each _ member

/-- The lookup stops at the same value if the property of the tag is the same, and the one for all
tags as well unless the tag has a property that counts. -/
theorem governing_congr (properties others : Properties) (tag : Option String)
    (own : ∀ name, tag = some name → others.lookup (key name) = properties.lookup (key name))
    (common : (∃ value, HasOwn properties tag value) ∨
      others.lookup defaultKey = properties.lookup defaultKey) :
    governing? others tag = governing? properties tag := by
  have sameOwn : (tag.bind fun name => value? others (key name)) =
      tag.bind fun name => value? properties (key name) := by
    cases tag with
    | none => rfl
    | some name => simp only [Option.bind_some, value?, own name rfl]
  rw [governing?, governing?, sameOwn]
  obtain ⟨value, has⟩ | same := common
  · rw [(hasOwn_iff _ _ _).mp has, Option.some_or, Option.some_or]
  · rw [value?, value?, same]

end Threshold

open Threshold

/-- A threshold is looked up by the rule, and a priority is worth writing if it reaches it.

First, there is one threshold for each configuration, valid or not, and each tag, and the answer is
whether the priority reaches it; a logger of the configuration gives that answer. Second, a value
that governs has a first byte to read. Third, the answer hangs on no property but that of the tag
and that for all tags, and not on the latter if the former says something. Fourth, what is worth
writing at a priority is so at a higher one; silent always is, the two lowest never are, and fatal
is not exactly if the threshold is silent. -/
theorem threshold_follows_the_rule (config : Config) (tag : Option String) :
    (∃ least, IsThreshold config tag least ∧
      (∀ other, IsThreshold config tag other → other = least) ∧
      ∀ priority, (config.isLoggable priority tag = true ↔ least ≤ priority) ∧
        ∀ on (world : World), ((world.refer on).2.loggers (world.refer on).1).config = config →
          world.step (.operate on (.isLoggable priority tag)) =
            .answered (.flag (decide (least ≤ priority))) (world.refer on).2) ∧
    (∀ value, Governs config.properties tag value → ∃ first rest, ofText value = first :: rest) ∧
    (∀ other : Config, other.fallback = config.fallback →
      (∀ name, tag = some name →
        other.properties.lookup (key name) = config.properties.lookup (key name)) →
      ((∃ value, HasOwn config.properties tag value) ∨
        other.properties.lookup defaultKey = config.properties.lookup defaultKey) →
      ∀ priority, other.isLoggable priority tag = config.isLoggable priority tag) ∧
    (∀ lower higher, lower ≤ higher → config.isLoggable lower tag = true →
      config.isLoggable higher tag = true) ∧
    config.isLoggable .silent tag = true ∧ config.isLoggable .unknown tag = false ∧
    config.isLoggable .default tag = false ∧
    (config.isLoggable .fatal tag = false ↔ IsThreshold config tag .silent) := by
  have unique : ∀ other, IsThreshold config tag other ↔
      other = threshold config.properties tag config.fallback :=
    isThreshold_iff config tag
  have least : IsThreshold config tag (threshold config.properties tag config.fallback) :=
    (unique _).mpr rfl
  have answer : ∀ priority, config.isLoggable priority tag =
      decide (threshold config.properties tag config.fallback ≤ priority) := fun _ => rfl
  obtain ⟨aboveUnknown, aboveDefault, belowSilent, fatal⟩ := letters_between least.exists_letter
  refine ⟨⟨_, least, fun other => (unique other).mp, fun priority => ⟨?_, ?_⟩⟩, ?_, ?_, ?_, ?_, ?_,
    ?_, ?_⟩
  · rw [answer, decide_eq_true_eq]
  · intro on world same
    rw [← answer, ← same]
    rfl
  · intro value governs
    exact exists_first_byte value governs.filled
  · intro other sameFallback own common priority
    rw [answer, Config.isLoggable, isLoggable, sameFallback, threshold_eq,
      governing_congr config.properties other.properties tag own common, ← threshold_eq]
  · intro lower higher ordered loggable
    rw [answer, decide_eq_true_eq] at loggable ⊢
    exact UInt8.le_trans loggable ordered
  · rw [answer]
    exact decide_eq_true belowSilent
  · rw [answer]
    exact decide_eq_false aboveUnknown
  · rw [answer]
    exact decide_eq_false aboveDefault
  · rw [answer, decide_eq_false_iff_not, fatal, unique, eq_comm]

/-- A value that begins with no letter is not passed over: the configuration decides, which falls
back to warnings, although the property for all tags would allow more. That stays so if this
property is taken away, and another tag's is changed. -/
theorem odd_value_is_not_passed_over :
    let config : Config :=
      { fallbackPriority := 'W'
        properties := [("log.tag.DEFAULT", "V"), ("log.tag.odd", "éV"), ("log.tag.other", "E")] }
    let other : Config :=
      { fallbackPriority := 'W', properties := [("log.tag.other", "V"), ("log.tag.odd", "éV")] }
    let world := ((World.start FileSystem.initial ⟨none, none⟩ .bare .bare).create config .memory).2
    (IsThreshold config (some "odd") .warn ∧
      HasOwn config.properties (some "odd") "éV" ∧
      (world.loggers 0).config = config) ∧
    other.isLoggable .info (some "odd") = config.isLoggable .info (some "odd") ∧
    world.step (.operate (.numbered 0) (.isLoggable .info (some "odd"))) =
      .answered (.flag false) world ∧
    config.isLoggable .silent (some "odd") = true := by
  intro config other world
  have threshold : IsThreshold config (some "odd") .warn := by
    rw [isThreshold_iff]
    decide
  have own : HasOwn config.properties (some "odd") "éV" := ⟨"odd", rfl, by decide, by decide⟩
  obtain ⟨⟨least, _, only, asked⟩, _, others, _, silent, _⟩ :=
    threshold_follows_the_rule config (some "odd")
  obtain rfl : Priority.warn = least := only _ threshold
  refine ⟨⟨threshold, own, rfl⟩, ?_, ?_, silent⟩
  · refine others other rfl ?_ (.inl ⟨_, own⟩) .info
    intro name same
    obtain rfl : "odd" = name := Option.some.inj same
    decide
  · exact (asked .info).2 (.numbered 0) world rfl

end KernelLog
