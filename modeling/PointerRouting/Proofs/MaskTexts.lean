/-
Module: PointerRouting.Proofs.MaskTexts
Purpose: Texts of masks lose nothing. A text lists names, and after them writes in hexadecimal what
  the names leave out. Names have no blanks and do not open with a zero, so the parts can be told
  apart, and together they have the bits of the word that was written: dispatch flags have a bit
  each, and sources, which share their class bits, are listed where all of their bits are there.
Main exports: RestPart, readMask?_listing, Dispatch.readMask?_text, InputSource.readMask?_text,
  Dispatch.flags_lose_nothing, InputSource.sources_lose_nothing
-/
import PointerRouting.Proofs.Modes
import PointerRouting.Proofs.PointerAlgebra
import PointerRouting.Reading

namespace PointerRouting

/-- The part of a listing for what its names leave out: none for no bits, and otherwise one that
writes the bits in hexadecimal, with at least so many digits. -/
def RestPart (width : Nat) (rest : BitVec 32) (parts : List String) : Prop :=
  rest = 0 ∧ parts = [] ∨ rest ≠ 0 ∧ ∃ part, parts = [part] ∧ WritesHex width rest part

theorem restPart_hexText (width : Nat) (rest : BitVec 32) :
    RestPart width rest (if rest = 0 then [] else [hexText width rest]) := by
  by_cases none : rest = 0
  · exact .inl ⟨none, if_pos none⟩
  · exact .inr ⟨none, hexText width rest, if_neg none, writesHex_hexText width rest⟩

section

variable {Item : Type} {name : Item → String} {word : Item → BitVec 32}
  {published : List (String × Nat)} {listed : List Item} {width : Nat} {rest : BitVec 32}
  {parts : List String}

theorem mapM_readPart?_names
    (reads : ∀ item ∈ listed, readPart? published (name item) = some (word item)) :
    (listed.map name).mapM (readPart? published) = some (listed.map word) := by
  induction listed with
  | nil => rfl
  | cons item listed ih =>
      obtain ⟨first, others⟩ := List.forall_mem_cons.mp reads
      simp [first, ih others]

theorem mapM_readPart?_rest (apart : ∀ entry ∈ published, entry.1.toList.head? ≠ some '0')
    (writes : RestPart (width + 1) rest parts) :
    ∃ words, parts.mapM (readPart? published) = some words ∧ allBits words = rest := by
  rcases writes with ⟨rfl, rfl⟩ | ⟨_, part, rfl, written⟩
  · exact ⟨[], rfl, rfl⟩
  · refine ⟨[rest], ?_, by simp [allBits]⟩
    simp [readPart?_of_writesHex apart written]

theorem allBits_append (first second : List (BitVec 32)) :
    allBits (first ++ second) = allBits first ||| allBits second := by
  apply BitVec.eq_of_getLsbD_eq
  intro index _
  simp [getLsbD_allBits]

/-- A listing of names and a rest is cut into the names and the rest, and has the bits of both. -/
theorem readMask?_listing (apart : ∀ entry ∈ published, entry.1.toList.head? ≠ some '0')
    (blankless : ∀ item, ' ' ∉ (name item).toList)
    (reads : ∀ item ∈ listed, readPart? published (name item) = some (word item))
    (writes : RestPart (width + 1) rest parts)
    (nonzero : allBits (listed.map word) ||| rest ≠ 0) :
    separated (joined " | " (listed.map name ++ parts)) = listed.map name ++ parts ∧
      readMask? published (joined " | " (listed.map name ++ parts)) =
        some (allBits (listed.map word) ||| rest) := by
  have nonempty : listed.map name ++ parts ≠ [] := by
    intro none
    obtain ⟨noNames, noRest⟩ := List.append_eq_nil_iff.mp none
    rw [List.map_eq_nil_iff] at noNames
    rcases writes with ⟨rfl, _⟩ | ⟨_, part, rfl, _⟩
    · exact nonzero (by simp [noNames, allBits])
    · cases noRest
  have clean : ∀ part ∈ listed.map name ++ parts, ' ' ∉ part.toList := by
    intro part member
    rcases List.mem_append.mp member with named | inRest
    · obtain ⟨item, _, rfl⟩ := List.mem_map.mp named
      exact blankless item
    · rcases writes with ⟨_, rfl⟩ | ⟨_, other, rfl, written⟩
      · cases inRest
      · rw [List.mem_singleton.mp inRest]
        exact written.blankless
  obtain ⟨words, readsRest, all⟩ := mapM_readPart?_rest apart writes
  refine ⟨separated_joined nonempty clean, ?_⟩
  rw [← all, ← allBits_append]
  apply readMask?_joined nonempty clean
  rw [List.mapM_append, mapM_readPart?_names reads, readsRest]
  rfl

end

namespace Dispatch

/-- The flags of a word, in ascending order of their bits. -/
def flagsOf (word : BitVec 32) : List DispatchFlag :=
  DispatchFlag.all.filter fun flag => word.getLsbD flag.position

/-- The bits of a word that have no name. -/
def unnamed (word : BitVec 32) : BitVec 32 := word &&& ~~~namedBits

theorem mem_all (flag : DispatchFlag) : flag ∈ DispatchFlag.all := by
  cases flag <;> decide

theorem mem_flagsOf {word : BitVec 32} {flag : DispatchFlag} :
    flag ∈ flagsOf word ↔ word.getLsbD flag.position = true := by
  rw [flagsOf, List.mem_filter, and_iff_right (mem_all flag)]

theorem ascending_flagsOf (word : BitVec 32) :
    (flagsOf word).Pairwise (·.position < ·.position) := by
  have ascending : DispatchFlag.all.Pairwise (·.position < ·.position) := by decide
  exact ascending.filter _

theorem getLsbD_unnamed {word : BitVec 32} {index : Nat} :
    (unnamed word).getLsbD index = true ↔
      word.getLsbD index = true ∧ ∀ flag : DispatchFlag, flag.position ≠ index := by
  have inside : word.getLsbD index = true → index < 32 := BitVec.lt_of_getLsbD
  have named : namedBits.getLsbD index = true ↔ ∃ flag : DispatchFlag, flag.position = index := by
    rw [namedBits, DispatchFlag.getLsbD_bits, List.any_eq_true]
    simp [mem_all]
  rw [unnamed, BitVec.getLsbD_and, BitVec.getLsbD_not]
  simp only [Bool.and_eq_true, Bool.not_eq_true', decide_eq_true_iff, ← Bool.not_eq_true, named,
    not_exists]
  tauto

/-- The named bits of a word and the others are all of its bits. -/
theorem allBits_flagsOf (word : BitVec 32) :
    allBits ((flagsOf word).map DispatchFlag.bit) ||| unnamed word = word := by
  apply BitVec.eq_of_getLsbD_eq
  intro index _
  rw [Bool.eq_iff_iff, BitVec.getLsbD_or, Bool.or_eq_true, getLsbD_unnamed, getLsbD_allBits,
    List.any_map, List.any_eq_true]
  simp only [Function.comp_apply, mem_flagsOf, DispatchFlag.getLsbD_bit, decide_eq_true_iff]
  constructor
  · rintro (⟨flag, set, rfl⟩ | ⟨set, _⟩)
    · exact set
    · exact set
  · intro set
    by_cases named : ∃ flag : DispatchFlag, flag.position = index
    · obtain ⟨flag, rfl⟩ := named
      exact .inl ⟨flag, set, rfl⟩
    · exact .inr ⟨set, not_exists.mp named⟩

/-- The parts of a text are the names of the flags and then the rest. -/
theorem parts_eq (word : BitVec 32) :
    parts word = (flagsOf word).map DispatchFlag.name ++
      if unnamed word = 0 then [] else [hexText 1 (unnamed word)] := by
  have set : (DispatchFlag.all.filter fun flag => word &&& flag.bit ≠ 0) = flagsOf word := by
    apply List.filter_congr
    intro flag _
    rw [DispatchFlag.bit, BitVec.and_twoPow, Bool.eq_iff_iff, decide_eq_true_iff]
    cases word.getLsbD flag.position <;> cases flag <;> decide
  rw [parts, set]
  change (if unnamed word = 0 then _ else _) = _
  split
  · exact (List.append_nil _).symm
  · rfl

theorem names_blankless (flag : DispatchFlag) : ' ' ∉ flag.name.toList := by
  cases flag <;> decide

theorem names_no_zero : ∀ entry ∈ DispatchFlag.published, entry.1.toList.head? ≠ some '0' := by
  decide

theorem readPart?_name (flag : DispatchFlag) :
    readPart? DispatchFlag.published flag.name = some flag.bit := by
  cases flag <;> decide

/-- The text of a word with bits is cut into the names of its flags and the rest, and read back. -/
theorem readMask?_parts {word : BitVec 32} (nonzero : word ≠ 0) :
    separated (joined " | " (parts word)) = parts word ∧
      readMask? DispatchFlag.published (joined " | " (parts word)) = some word := by
  have whole := allBits_flagsOf word
  have listing := readMask?_listing names_no_zero names_blankless
    (fun flag (_ : flag ∈ flagsOf word) => readPart?_name flag)
    (restPart_hexText 1 (unnamed word)) (by rwa [whole])
  rwa [← parts_eq, whole] at listing

/-- Whatever number a mask is stored as, its text is read back, unless it has no bits and is not
zero. -/
theorem readMask?_text {mask : Mask} (told : mask.stored = 0 ∨ mask.word ≠ 0) :
    readMask? DispatchFlag.published (text mask) = some mask.word := by
  by_cases zero : mask.stored = 0
  · have word : mask.word = 0 := by
      rw [Mask.word, zero]
      rfl
    rw [text, if_pos zero, word]
    decide
  · rw [text, if_neg zero]
    exact (readMask?_parts (told.resolve_left zero)).2

end Dispatch

/-- The integers that a word can be given as: unsigned, or signed. -/
def IsWord (value : Int) : Prop := -2 ^ 31 ≤ value ∧ value < 2 ^ 32

instance (value : Int) : Decidable (IsWord value) := inferInstanceAs (Decidable (_ ∧ _))

theorem IsWord.ofInt_eq_zero_iff {value : Int} (isWord : IsWord value) :
    BitVec.ofInt 32 value = 0 ↔ value = 0 := by
  obtain ⟨low, high⟩ := isWord
  constructor
  · intro zero
    have divides := congrArg BitVec.toNat zero
    rw [BitVec.toNat_ofInt] at divides
    simp at divides
    omega
  · rintro rfl
    rfl

theorem ofInt_eq_ofInt_iff {left right : Int} :
    BitVec.ofInt 32 left = BitVec.ofInt 32 right ↔ left % 2 ^ 32 = right % 2 ^ 32 := by
  rw [← BitVec.toNat_inj, BitVec.toNat_ofInt, BitVec.toNat_ofInt]
  omega

namespace Dispatch

/-- The text of a dispatch mask that is given as an integer. -/
def textOf (value : Int) : String := text ⟨.ofInt value⟩

variable {value : Int}

theorem stored_eq_zero_iff (isWord : IsWord value) :
    Number.ofInt value = 0 ↔ BitVec.ofInt 32 value = 0 := by
  rw [isWord.ofInt_eq_zero_iff]
  constructor
  · intro same
    exact Option.some.inj ((Number.toInt?_ofInt value).symm.trans (congrArg Number.toInt? same))
  · rintro rfl
    rfl

theorem textOf_eq (isWord : IsWord value) :
    textOf value =
      if BitVec.ofInt 32 value = 0 then "0x0"
      else joined " | " (parts (BitVec.ofInt 32 value)) := by
  simp only [textOf, text, stored_eq_zero_iff isWord, Mask.word, Number.word_ofInt]

theorem readMask?_textOf (isWord : IsWord value) :
    readMask? DispatchFlag.published (textOf value) = some (BitVec.ofInt 32 value) := by
  have word : (Mask.mk (.ofInt value)).word = BitVec.ofInt 32 value := Number.word_ofInt value
  have told : (Mask.mk (.ofInt value)).stored = 0 ∨ (Mask.mk (.ofInt value)).word ≠ 0 := by
    rw [word, Ne, ← stored_eq_zero_iff isWord]
    exact em _
  rw [textOf, readMask?_text told, word]

/-- The texts of dispatch masks lose nothing. The text of an integer that stands for a word, signed or
unsigned, is read back as that word. It is `0x0` just in case the word has no bits. Any other text is
cut at its bars into the names of exactly the flags that are set, each once and in ascending order of
their bits, and then at most one part more, which writes exactly the set bits without a name in
hexadecimal, and only if there are any. Hence integers have the same text just in case they are
equal modulo 2^32. -/
theorem flags_lose_nothing (isWord : IsWord value) :
    let word := BitVec.ofInt 32 value
    readMask? DispatchFlag.published (textOf value) = some word ∧
    (textOf value = "0x0" ↔ ∀ index, word.getLsbD index = false) ∧
    (textOf value ≠ "0x0" →
      ∃ (flags : List DispatchFlag) (rest : BitVec 32) (last : List String),
        separated (textOf value) = flags.map DispatchFlag.name ++ last ∧
        flags.Pairwise (·.position < ·.position) ∧
        (∀ flag, flag ∈ flags ↔ word.getLsbD flag.position = true) ∧
        RestPart 1 rest last ∧
        ∀ index, rest.getLsbD index = true ↔
          word.getLsbD index = true ∧ ∀ flag : DispatchFlag, flag.position ≠ index) ∧
    ∀ other, IsWord other →
      (textOf other = textOf value ↔ other % 2 ^ 32 = value % 2 ^ 32) := by
  intro word
  have reads : readMask? DispatchFlag.published (textOf value) = some word :=
    readMask?_textOf isWord
  have zero : textOf value = "0x0" ↔ word = 0 := by
    constructor
    · intro written
      have none : readMask? DispatchFlag.published "0x0" = some 0 := by decide
      exact eq_of_readMask? written reads none
    · intro none
      rw [textOf_eq isWord, if_pos none]
  refine ⟨reads, ?_, ?_, ?_⟩
  · rw [zero, ← not_iff_not, ← Ne, Mask.ne_zero_iff_exists_bit]
    simp
  · intro nonzero
    rw [Ne, zero] at nonzero
    refine ⟨flagsOf word, unnamed word, _, ?_, ascending_flagsOf word, fun _ => mem_flagsOf,
      restPart_hexText 1 (unnamed word), fun _ => getLsbD_unnamed⟩
    rw [textOf_eq isWord, if_neg nonzero, (readMask?_parts nonzero).1, parts_eq]
  · intro other otherIsWord
    rw [← ofInt_eq_ofInt_iff]
    constructor
    · intro same
      exact eq_of_readMask? same (readMask?_textOf otherIsWord) reads
    · intro same
      rw [textOf_eq otherIsWord, textOf_eq isWord, same]

/-- The sign bit has no name. A word that has it is given as a negative integer or as a large one,
and both have one text. -/
theorem sign_bit_is_written :
    IsWord (-2147483391) ∧ textOf (-2147483391) = "FOREGROUND | DISPATCH_AS_IS | 0x80000000" ∧
      readMask? DispatchFlag.published (textOf (-2147483391)) = some 0x80000101 ∧
      textOf 2147483905 = textOf (-2147483391) := by
  have isWord : IsWord (-2147483391) := by decide
  obtain ⟨reads, _, _, same⟩ := flags_lose_nothing isWord
  exact ⟨isWord, by decide, reads, (same 2147483905 (by decide)).mpr (by decide)⟩

end Dispatch

namespace InputSource

theorem mem_all (source : InputSource) : source ∈ all := by
  cases source <;> decide

theorem word_eq_zero_iff {source : InputSource} : source.word = 0 ↔ source = unknown := by
  cases source <;> decide

theorem mem_within {bits : BitVec 32} {source : InputSource} :
    source ∈ within bits ↔ source ≠ unknown ∧ bits &&& source.word = source.word := by
  rw [within, List.mem_filter, and_iff_right (mem_all source), decide_eq_true_iff, Ne,
    word_eq_zero_iff]

theorem within_sublist (bits : BitVec 32) : (within bits).Sublist all := List.filter_sublist

/-- The bits of a word that no source within it accounts for. -/
def leftover (bits : BitVec 32) : BitVec 32 := bits &&& ~~~covered (within bits)

theorem covered_eq (sources : List InputSource) : covered sources = allBits (sources.map word) := by
  rw [covered, allBits, List.foldl_map]

theorem getLsbD_covered {sources : List InputSource} {index : Nat} :
    (covered sources).getLsbD index = true ↔ ∃ source ∈ sources, source.word.getLsbD index = true := by
  rw [covered_eq, getLsbD_allBits, List.any_map, List.any_eq_true]
  simp only [Function.comp_apply]

theorem getLsbD_leftover {bits : BitVec 32} {index : Nat} :
    (leftover bits).getLsbD index = true ↔
      bits.getLsbD index = true ∧ ∀ source ∈ within bits, source.word.getLsbD index = false := by
  have inside : bits.getLsbD index = true → index < 32 := BitVec.lt_of_getLsbD
  rw [leftover, BitVec.getLsbD_and, BitVec.getLsbD_not]
  simp only [Bool.and_eq_true, Bool.not_eq_true', decide_eq_true_iff, ← Bool.not_eq_true,
    getLsbD_covered, not_exists, not_and]
  tauto

/-- Sources within a word have no bits but its own. -/
theorem getLsbD_of_within {bits : BitVec 32} {source : InputSource} (listed : source ∈ within bits)
    {index : Nat} (set : source.word.getLsbD index = true) : bits.getLsbD index = true := by
  rw [← (mem_within.mp listed).2, BitVec.getLsbD_and, Bool.and_eq_true] at set
  exact set.1

/-- The sources within a word and what is left over are all of its bits. -/
theorem allBits_within (bits : BitVec 32) :
    allBits ((within bits).map word) ||| leftover bits = bits := by
  apply BitVec.eq_of_getLsbD_eq
  intro index _
  rw [← covered_eq, Bool.eq_iff_iff, BitVec.getLsbD_or, Bool.or_eq_true, getLsbD_leftover,
    getLsbD_covered]
  constructor
  · rintro (⟨source, listed, set⟩ | ⟨set, _⟩)
    · exact getLsbD_of_within listed set
    · exact set
  · intro set
    by_cases accounted : ∃ source ∈ within bits, source.word.getLsbD index = true
    · exact .inl accounted
    · right
      refine ⟨set, fun source listed => ?_⟩
      rw [← Bool.not_eq_true]
      exact fun own => accounted ⟨source, listed, own⟩

theorem names_blankless (source : InputSource) : ' ' ∉ source.name.toList := by
  cases source <;> decide

theorem names_no_zero : ∀ entry ∈ published, entry.1.toList.head? ≠ some '0' := by
  decide

theorem readPart?_name (source : InputSource) :
    readPart? published source.name = some source.word := by
  cases source <;> decide

theorem text_eq {bits : BitVec 32} (nonzero : bits ≠ 0) :
    text bits = joined " | " ((within bits).map name ++
      if leftover bits = 0 then [] else [hexText 8 (leftover bits)]) := by
  rw [text, if_neg nonzero]
  rfl

/-- The text of a word with bits is cut into the names within it and what is left over, and read
back. -/
theorem readMask?_text_of_ne_zero {bits : BitVec 32} (nonzero : bits ≠ 0) :
    separated (text bits) = (within bits).map name ++
        (if leftover bits = 0 then [] else [hexText 8 (leftover bits)]) ∧
      readMask? published (text bits) = some bits := by
  have whole := allBits_within bits
  have listing := readMask?_listing names_no_zero names_blankless
    (fun source (_ : source ∈ within bits) => readPart?_name source)
    (restPart_hexText 8 (leftover bits)) (by rwa [whole])
  rwa [← text_eq nonzero, whole] at listing

/-- The text of a word of sources is read back. -/
theorem readMask?_text (bits : BitVec 32) : readMask? published (text bits) = some bits := by
  by_cases none : bits = 0
  · rw [none]
    decide
  · exact (readMask?_text_of_ne_zero none).2

/-- The texts of sources lose nothing. A source is whatever number it is given as, and stands for the
word of its whole part modulo 2^32; what is not finite stands for the empty word. The text is read
back as that word. It is `UNKNOWN` just in case the word has no bits. Any other text is cut at its
bars into the names of exactly the sources other than that one all of whose bits are in the word, in
their order and each once, and then at most one part more, which writes in hexadecimal, with at
least eight digits, the bits of the word that are in none of the sources listed, and only if there
are any; together the sources listed and that part have exactly the bits of the word. Hence sources
have the same text just in case they stand for the same word. -/
theorem sources_lose_nothing (source : Number) :
    (∀ value, source = .finite value →
      source.word.toNat = ((if 0 ≤ value then ⌊value⌋ else ⌈value⌉) % 2 ^ 32).toNat) ∧
    (source.isFinite = false → source.word = 0) ∧
    readMask? published (text source.word) = some source.word ∧
    (text source.word = "UNKNOWN" ↔ source.word = 0) ∧
    (text source.word ≠ "UNKNOWN" →
      ∃ (listed : List InputSource) (rest : BitVec 32) (last : List String),
        separated (text source.word) = listed.map name ++ last ∧
        listed.Sublist all ∧ listed.Nodup ∧
        (∀ other, other ∈ listed ↔
          other ≠ unknown ∧ source.word &&& other.word = other.word) ∧
        RestPart 8 rest last ∧
        (∀ index, rest.getLsbD index = true ↔
          source.word.getLsbD index = true ∧
            ∀ other ∈ listed, other.word.getLsbD index = false) ∧
        allBits (listed.map word) ||| rest = source.word) ∧
    ∀ other : Number, text other.word = text source.word ↔ other.word = source.word := by
  have zero : text source.word = "UNKNOWN" ↔ source.word = 0 := by
    constructor
    · intro written
      have none : readMask? published "UNKNOWN" = some 0 := by decide
      exact eq_of_readMask? written (readMask?_text source.word) none
    · intro none
      rw [none]
      rfl
  refine ⟨?_, ?_, readMask?_text source.word, zero, ?_, ?_⟩
  · rintro value rfl
    rw [Number.word, BitVec.toNat_ofInt, Number.truncateValue_eq]
    rfl
  · intro infinite
    cases source with
    | finite => cases infinite
    | nan | infinite => rfl
  · intro nonzero
    rw [Ne, zero] at nonzero
    have nodup : all.Nodup := by decide
    exact ⟨within source.word, leftover source.word, _,
      (readMask?_text_of_ne_zero nonzero).1, within_sublist source.word,
      nodup.sublist (within_sublist source.word), fun _ => mem_within,
      restPart_hexText 8 (leftover source.word), fun _ => getLsbD_leftover,
      allBits_within source.word⟩
  · intro other
    constructor
    · intro same
      exact eq_of_readMask? same (readMask?_text other.word) (readMask?_text source.word)
    · intro same
      rw [same]

/-- A touch screen with a bit that belongs to no source: the number is negative and has a fraction, and
a larger one without stands for the same word. -/
theorem touchscreen_and_sign_bit :
    let source := Number.finite (-2147479550 - 1 / 2)
    text source.word = "TOUCHSCREEN | 0x80000000" ∧
      source.word.toNat = 0x80001002 ∧
      readMask? published (text source.word) = some 0x80001002 ∧
      text (Number.ofInt 0x80001002).word = text source.word := by
  intro source
  obtain ⟨isWord, _, reads, _, _, same⟩ := sources_lose_nothing source
  have word : source.word = 0x80001002 := by decide +kernel
  refine ⟨by rw [word]; decide, ?_, ?_, ?_⟩
  · rw [isWord _ rfl]
    decide +kernel
  · rw [reads, word]
  · rw [same, word]
    decide

end InputSource

end PointerRouting
