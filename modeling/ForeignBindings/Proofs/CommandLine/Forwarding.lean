import ForeignBindings.CommandLine.Invocation
import ForeignBindings.Proofs.CommandLine.Mentions
import Mathlib.Data.List.TakeWhile

/-!
# Forwarding arguments to the build

The words behind two lone dashes are arguments of the build.  They change nothing else that the
generate command is asked to do, and the build is run with them behind its own arguments.
-/

namespace ForeignBindings
namespace CommandLine

open Checks

variable {grammar : Grammar} {words rest : List String}

theorem readWords_append_dashes {reading next : Reading} (plain : "--" ∉ words)
    (read : reading.readWords grammar words = .ok (next, rest)) (extra : List String) :
    reading.readWords grammar (words ++ "--" :: extra) = .ok (next, extra) := by
  induction words generalizing reading with
  | nil =>
      cases read
      rfl
  | cons word words induction =>
      obtain ⟨first_plain, others_plain⟩ := not_or.mp (List.mem_cons.not.mp plain)
      rw [Reading.readWords_cons (Ne.symm first_plain)] at read
      obtain ⟨between, first, others⟩ := bind_eq_ok_iff.mp read
      rw [List.cons_append, Reading.readWords_cons (Ne.symm first_plain)]
      exact bind_eq_ok_iff.mpr ⟨between, first, induction others_plain others⟩

theorem readArguments_append_dashes {reading : Reading} (passes : grammar.passesOn = true)
    (plain : "--" ∉ words) (read : readArguments grammar words = .ok (reading, rest))
    (extra : List String) :
    readArguments grammar (words ++ "--" :: extra) = .ok (reading, extra) := by
  obtain ⟨⟨last, behind⟩, words_read, read⟩ := bind_eq_ok_iff.mp read
  dsimp only at read
  rw [if_pos passes] at read
  obtain ⟨settled, finished, read⟩ := bind_eq_ok_iff.mp read
  cases read
  refine bind_eq_ok_iff.mpr ⟨⟨last, extra⟩, readWords_append_dashes plain words_read extra, ?_⟩
  dsimp only
  rw [if_pos passes]
  exact bind_eq_ok_iff.mpr ⟨reading, finished, rfl⟩

/-- Whether a word starts options: a dash and more, but not two lone dashes. -/
def IsFlag (word : String) : Prop :=
  word ≠ "--" ∧ ∃ letter letters, word.toList = '-' :: letter :: letters

theorem parseWords_of_isFlag {word : String} (flag : IsFlag word) (reading : Reading)
    (words : List String) :
    parseWords reading (word :: words) =
      reading.readWord .common word >>= fun next => parseWords next words := by
  obtain ⟨plain, letter, letters, spelled⟩ := flag
  have other {name : String} (first : name.toList.head? ≠ some '-') : word ≠ name := by
    rintro rfl
    rw [spelled] at first
    exact first rfl
  have unnamed : CommandName.ofWord? word = none := by
    unfold CommandName.ofWord?
    split
    case h_1 | h_2 | h_3 => exact absurd rfl (other (by decide))
    case h_4 => rfl
  rw [parseWords, unnamed, spelled]
  case x_1 => exact fun same => absurd same plain
  case x_2 => exact fun same => absurd same (other (by decide))
  rfl

/-- Options in front of the command decide about its verbosity. -/
theorem parseWords_flags {flags : List String} (dashed : ∀ flag ∈ flags, IsFlag flag)
    (reading : Reading) (words : List String) :
    parseWords reading (flags ++ "generate" :: words) =
      flags.foldlM (Reading.readWord .common) reading >>= fun last =>
        parseCommand last.verbosity .generate words := by
  induction flags generalizing reading with
  | nil => rfl
  | cons flag flags induction =>
      obtain ⟨first, others⟩ := List.forall_mem_cons.mp dashed
      rw [List.cons_append, parseWords_of_isFlag first, List.foldlM_cons, bind_assoc]
      exact bind_congr fun next => induction others next

/-- Whether a word asks for a release, with or without a URL. -/
def isReleaseWord (word : String) : Bool :=
  word == "--release" || "--release=".toList.isPrefixOf word.toList

theorem takeWhile_ne_eq_iff {stop : Char} {name : List Char} (free : stop ∉ name)
    (letters : List Char) :
    letters.takeWhile (· != stop) = name ↔ letters = name ∨ name ++ [stop] <+: letters := by
  have kept : ∀ letter ∈ name, (letter != stop) = true := fun letter inside =>
    bne_iff_ne.mpr fun same => free (same ▸ inside)
  constructor
  · rintro rfl
    have whole := List.takeWhile_append_dropWhile (p := (· != stop)) (l := letters)
    cases behind : letters.dropWhile (· != stop) with
    | nil =>
        rw [behind, List.append_nil] at whole
        exact .inl whole.symm
    | cons first rest =>
        have head := List.head?_dropWhile_not (· != stop) letters
        rw [behind] at head
        obtain rfl : first = stop := bne_eq_false_iff_eq.mp head
        refine .inr ⟨rest, ?_⟩
        rw [List.append_assoc, List.singleton_append, ← behind, whole]
  · rintro (rfl | ⟨rest, rfl⟩)
    · exact List.takeWhile_eq_self_iff.mpr kept
    · rw [List.append_assoc, List.takeWhile_append_of_pos kept, List.singleton_append,
        List.takeWhile_cons_of_neg (by simp), List.append_nil]

theorem lookup_long_generate_eq_release {name : String} :
    Grammar.generate.long.lookup name = some .release ↔ name = "release" := by
  constructor
  · intro known
    have listed : ∀ entry ∈ Grammar.generate.long, entry.2 = .release → entry.1 = "release" := by
      decide
    exact listed (name, .release) (Reading.mem_of_lookup_eq_some known) rfl
  · rintro rfl
    rfl

theorem spells_generate_release : Reading.spells .generate .release = isReleaseWord := by
  funext word
  rw [Bool.eq_iff_iff, isReleaseWord, Bool.or_eq_true, beq_iff_eq, List.isPrefixOf_iff_prefix,
    ← String.toList_inj, Reading.spells]
  generalize word.toList = letters
  split
  case h_1 letters =>
    have name : (Reading.cutAtEquals letters).1 = String.ofList (letters.takeWhile (· != '=')) := by
      unfold Reading.cutAtEquals
      dsimp only
      split <;> rfl
    have dashes : "--release".toList = '-' :: '-' :: "release".toList := by decide
    have dashes_equals : "--release=".toList = '-' :: '-' :: ("release".toList ++ ['=']) := by
      decide
    rw [beq_iff_eq, lookup_long_generate_eq_release, name, ← String.toList_inj, String.toList_ofList,
      takeWhile_ne_eq_iff (by decide), dashes, dashes_equals, List.cons.injEq, List.cons.injEq,
      List.cons_prefix_cons, List.cons_prefix_cons]
    simp only [true_and]
  case h_2 other =>
    refine ⟨fun impossible => absurd impossible Bool.false_ne_true, ?_⟩
    rintro (rfl | ⟨rest, rfl⟩)
    · exact absurd rfl (other "release".toList)
    · exact absurd rfl (other ("release=".toList ++ rest))

/-- The words that are passed on are one field of what is asked for, and a release is asked for by
its option. -/
theorem command_generate (reading : Reading) :
    ∃ options : GenerateOptions, (options.profile == .release) = reading.has .release ∧
      ∀ extra, command .generate reading extra =
        .generate { options with extraArguments := extra } := by
  refine ⟨{ profile := (target (reading.value? .release)).1, extraArguments := [], .. }, ?_,
    fun extra => rfl⟩
  change ((target (reading.value? .release)).1 == .release) = (reading.value? .release).isSome
  cases reading.value? .release <;> rfl

/-- Words behind two lone dashes reach the build as they are.  For options in front of the command
and words behind it that make a command line on their own, the longer command line is read as well,
asks for the same in everything else, and the build is run with these words behind `build` and, if a
word asks for a release, `--release`. -/
theorem generate_passes_on {flags words : List String} {invocation : Invocation}
    (dashed : ∀ flag ∈ flags, IsFlag flag) (plain : "--" ∉ words)
    (parsed : parse (flags ++ "generate" :: words) = .ok invocation) :
    ∃ options, invocation.command = .generate options ∧ options.extraArguments = [] ∧
      ∀ extra,
        parse (flags ++ "generate" :: (words ++ "--" :: extra)) =
          .ok { invocation with
            command := .generate { options with extraArguments := extra } } ∧
        { options with extraArguments := extra }.buildArguments =
          "build" :: (if words.any isReleaseWord then ["--release"] else []) ++ extra := by
  rw [parse, parseWords_flags dashed] at parsed
  obtain ⟨last, flags_read, parsed⟩ := bind_eq_ok_iff.mp parsed
  obtain ⟨⟨reading, rest⟩, words_read, parsed⟩ := bind_eq_ok_iff.mp parsed
  cases parsed
  have no_letter : ∀ entry ∈ Grammar.generate.short, entry.2 ≠ .release := by decide
  obtain ⟨given, rfl⟩ :
      reading.has .release = words.any (Reading.spells .generate .release) ∧ rest = [] :=
    has_of_readArguments (by decide) no_letter rfl rfl plain words_read
  rw [spells_generate_release] at given
  obtain ⟨options, profile, asks⟩ := command_generate reading
  refine ⟨{ options with extraArguments := [] }, asks [], rfl, fun extra => ⟨?_, ?_⟩⟩
  · rw [parse, parseWords_flags dashed]
    refine bind_eq_ok_iff.mpr ⟨last, flags_read, bind_eq_ok_iff.mpr ⟨(reading, extra), ?_, ?_⟩⟩
    · exact readArguments_append_dashes rfl plain words_read extra
    · rw [← asks extra]
      rfl
  · rw [GenerateOptions.buildArguments, profile, given]
    rfl

theorem generate_passes_on_releases_and_dashes :
    (∀ flag ∈ ["-v"], IsFlag flag) ∧
      "--" ∉ ["--release=https://example.org", "-o", "lib", "--lazy-init"] ∧
      ∃ invocation, parse ("-v" :: "generate" ::
        ["--release=https://example.org", "-o", "lib", "--lazy-init"]) = .ok invocation ∧
      ∃ options, invocation.command = .generate options ∧
        parse ("-v" :: "generate" :: ["--release=https://example.org", "-o", "lib", "--lazy-init",
          "--", "--release", "", "--", "-v"]) =
          .ok { invocation with
            command := .generate { options with extraArguments := ["--release", "", "--", "-v"] } } ∧
        { options with extraArguments := ["--release", "", "--", "-v"] }.buildArguments =
          ["build", "--release", "--release", "", "--", "-v"] := by
  have dashed : ∀ flag ∈ ["-v"], IsFlag flag :=
    List.forall_mem_singleton.mpr ⟨by decide, 'v', [], by decide⟩
  have plain : "--" ∉ ["--release=https://example.org", "-o", "lib", "--lazy-init"] := by decide
  obtain ⟨invocation, parsed⟩ : ∃ invocation, parse (["-v"] ++ "generate" ::
      ["--release=https://example.org", "-o", "lib", "--lazy-init"]) = .ok invocation := ⟨_, by rfl⟩
  obtain ⟨options, asks, -, forwards⟩ := generate_passes_on dashed plain parsed
  obtain ⟨longer, arguments⟩ := forwards ["--release", "", "--", "-v"]
  exact ⟨dashed, plain, invocation, parsed, options, asks, longer, arguments.trans (by decide)⟩

end CommandLine
end ForeignBindings
