import MountHub.Command.Arguments
import Mathlib.Data.List.Basic

/-! The grammar of the command line. A line of arguments is written from items, each of which is an
option with its value or the command; or it begins with such items and goes on with an argument
that ends the reading. Every line is read as the grammar says, and in no other way. -/
namespace MountHub.Arguments

inductive Item where
  | config (value : String)
  | command (word : String)
deriving DecidableEq

namespace Item

/-- An option takes the argument behind it, whatever that is. -/
def written : Item → List String
  | .config value => ["--config",value]
  | .command word => [word]

def value? : Item → Option String
  | .config value => some value
  | .command _ => none

def word? : Item → Option String
  | .config _ => none
  | .command word => some word

end Item

variable {usual word : String} {items before : List Item} {rest : List String}

/-- The arguments that items are written as. -/
def line (items : List Item) : List String := items.flatMap Item.written

def values (items : List Item) : List String := items.filterMap Item.value?

def words (items : List Item) : List String := items.filterMap Item.word?

/-- There is at most one command, and it does not begin with a dash. -/
structure Formed (items : List Item) : Prop where
  bare : ∀ word ∈ words items, isDashed word = false
  single : (words items).length ≤ 1

/-- What items say: the last value, or else the usual one, and the command. -/
def said (usual : String) (items : List Item) : Arguments where
  config := (values items).getLast?.getD usual
  command := (words items).head?

/-- How a line is to be read; errors are told in words. -/
inductive Reads (usual : String) : List String → Except String (Option Arguments) → Prop
  | whole {items : List Item} (formed : Formed items) :
      Reads usual (line items) (.ok (some (said usual items)))
  | help {items : List Item} {word : String} {rest : List String} (formed : Formed items)
      (asks : word = "--help" ∨ word = "-h") :
      Reads usual (line items ++ word :: rest) (.ok none)
  | valueless {items : List Item} (formed : Formed items) :
      Reads usual (line items ++ ["--config"]) (.error "--config requires a value")
  | second {items : List Item} {word : String} {rest : List String} (formed : Formed items)
      (bare : isDashed word = false) (given : words items ≠ []) :
      Reads usual (line items ++ word :: rest) (.error ("Unknown option: " ++ word))
  | dashed {items : List Item} {word : String} {rest : List String} (formed : Formed items)
      (dashed : isDashed word = true) (unknown : word ∉ ["--help","-h","--config"]) :
      Reads usual (line items ++ word :: rest) (.error ("Unknown option: " ++ word))

theorem notMem_of_bare (bare : isDashed word = false) : word ∉ ["--help","-h","--config"] := by
  intro member
  have dashed : ∀ option ∈ ["--help","-h","--config"], isDashed option = true := by decide
  rw [dashed word member] at bare
  cases bare

theorem line_append_singleton (items : List Item) (item : Item) :
    line (items ++ [item]) = line items ++ item.written := by
  simp [line]

theorem words_append (items more : List Item) : words (items ++ more) = words items ++ words more :=
  List.filterMap_append

theorem words_map_config (given : List String) : words (given.map .config) = [] := by
  simp [words,Item.word?]

theorem values_map_config (given : List String) : values (given.map .config) = given := by
  rw [values,List.filterMap_map]
  exact List.filterMap_some

namespace Formed

theorem nil : Formed [] := ⟨nofun,by simp [words]⟩

theorem of_append {more : List Item} (formed : Formed (items ++ more)) : Formed items where
  bare word member := formed.bare word (by
    rw [words_append]
    exact List.mem_append_left _ member)
  single := by
    have bound := formed.single
    rw [words_append,List.length_append] at bound
    exact Nat.le_of_add_right_le bound

theorem config (formed : Formed items) (value : String) : Formed (items ++ [.config value]) := by
  have same : words (items ++ [.config value]) = words items := by simp [words,Item.word?]
  exact ⟨same ▸ formed.bare,same ▸ formed.single⟩

theorem command (bare : isDashed word = false) (none : words items = []) :
    Formed (items ++ [.command word]) := by
  have alone : words (items ++ [.command word]) = [word] := by
    rw [words_append]
    exact congrArg (· ++ [word]) none
  exact ⟨by simp [alone,bare],by simp [alone]⟩

theorem words_eq_nil (formed : Formed (items ++ [.command word])) : words items = [] := by
  have bound := formed.single
  rw [words_append,List.length_append] at bound
  exact List.length_eq_zero_iff.mp (Nat.le_zero.mp (Nat.add_le_add_iff_right.mp bound))

theorem bare_last (formed : Formed (items ++ [.command word])) : isDashed word = false :=
  formed.bare word (by simp [words,Item.word?])

end Formed

theorem said_config (usual : String) (items : List Item) (value : String) :
    said usual (items ++ [.config value]) = { said usual items with config := value } := by
  simp [said,values,words,Item.value?,Item.word?]

theorem said_command (usual : String) (none : words items = []) (word : String) :
    said usual (items ++ [.command word]) = { said usual items with command := some word } := by
  rw [words] at none
  simp [said,values,words,Item.value?,Item.word?,none]

theorem read_cons (sofar : Arguments) (argument : String) (rest : List String) :
    read sofar (argument :: rest) =
      if argument = "--help" ∨ argument = "-h" then .ok none
      else if argument = "--config" then
        match rest with
        | [] => .error .valueMissing
        | value :: rest => read { sofar with config := value } rest
      else if sofar.command.isNone && !isDashed argument then
        read { sofar with command := some argument } rest
      else .error (.unknown argument) :=
  read.eq_def sofar (argument :: rest)

theorem read_config (sofar : Arguments) (value : String) (rest : List String) :
    read sofar ("--config" :: value :: rest) = read { sofar with config := value } rest := by
  rw [read_cons,if_neg (by decide),if_pos rfl]

theorem read_bare (bare : isDashed word = false) (sofar : Arguments) (rest : List String) :
    read sofar (word :: rest) =
      if sofar.command = none then read { sofar with command := some word } rest
      else .error (.unknown word) := by
  have known := notMem_of_bare bare
  simp only [List.mem_cons,List.not_mem_nil,or_false,not_or] at known
  rw [read_cons,if_neg (by simp [known]),if_neg known.2.2]
  cases sofar.command <;> simp [bare]

/-- Items are read as what they say, after the items before. -/
theorem read_line (formed : Formed (before ++ items)) (rest : List String) :
    read (said usual before) (line items ++ rest) = read (said usual (before ++ items)) rest := by
  induction items generalizing before with
  | nil => simp [line]
  | cons item more ih =>
    have split : before ++ item :: more = before ++ [item] ++ more := by simp
    have written : line (item :: more) ++ rest = item.written ++ (line more ++ rest) := by
      simp [line]
    rw [split] at formed ⊢
    rw [written,← ih formed]
    have first := formed.of_append
    cases item with
    | config value =>
      rw [said_config]
      exact read_config _ _ _
    | command word =>
      have none := first.words_eq_nil
      have unset : (said usual before).command = Option.none := by rw [said,none]; rfl
      rw [said_command usual none]
      exact (read_bare first.bare_last _ _).trans (if_pos unset)

/-- What is read after some items is what the grammar says of the whole line. -/
theorem reads_read {sofar : Arguments} (formed : Formed items) (same : said usual items = sofar) :
    Reads usual (line items ++ rest) ((read sofar rest).mapError ArgumentError.message) := by
  -- One case for each turn of the reading; the items grow with what has been read.
  fun_induction read sofar rest generalizing items with
  | case1 sofar =>
    rw [List.append_nil,← same]
    exact .whole formed
  | case2 sofar word rest asks => exact .help formed asks
  | case3 => exact .valueless formed
  | case4 sofar value rest _ ih =>
    have longer := ih (formed.config value) (by rw [said_config,same])
    rw [line_append_singleton,List.append_assoc] at longer
    exact longer
  | case5 sofar word rest _ _ bare ih =>
    rw [Bool.and_eq_true,Option.isNone_iff_eq_none,Bool.not_eq_true',← same] at bare
    have none : words items = [] := List.head?_eq_none_iff.mp bare.1
    have longer := ih (.command bare.2 none) (by rw [said_command usual none,same])
    rw [line_append_singleton,List.append_assoc] at longer
    exact longer
  | case6 sofar word rest help config refused =>
    cases dashed : isDashed word with
    | true => exact .dashed formed dashed (by simp_all)
    | false =>
      refine .second formed dashed fun none => refused ?_
      rw [← same,said,none,dashed]
      rfl

theorem parse_append (usual : String) (formed : Formed items) (rest : List String) :
    parse usual (line items ++ rest) = read (said usual items) rest :=
  @read_line usual items [] formed rest

theorem parse_line (usual : String) (formed : Formed items) :
    parse usual (line items) = .ok (some (said usual items)) := by
  have ended := parse_append usual formed []
  rw [List.append_nil] at ended
  exact ended

/-- What the grammar says of a line is read. -/
theorem Reads.parse_eq {arguments : List String} {reply : Except String (Option Arguments)}
    (reads : Reads usual arguments reply) :
    (parse usual arguments).mapError ArgumentError.message = reply := by
  cases reads with
  | whole formed =>
    rw [parse_line usual formed]
    rfl
  | help formed asks =>
    rw [parse_append usual formed,read_cons,if_pos asks]
    rfl
  | valueless formed =>
    rw [parse_append usual formed]
    rfl
  | second formed bare given =>
    have taken : (said usual _).command ≠ none := mt List.head?_eq_none_iff.mp given
    rw [parse_append usual formed,read_bare bare,if_neg taken]
    rfl
  | dashed formed dashed unknown =>
    simp only [List.mem_cons,List.not_mem_nil,or_false,not_or] at unknown
    rw [parse_append usual formed,read_cons,if_neg (by simp [unknown]),if_neg unknown.2.2,
      if_neg (by simp [dashed])]
    rfl

/-- Options around a command leave it and the last of their values. -/
theorem parse_around (usual : String) (bare : isDashed word = false) (front back : List String) :
    parse usual (line (front.map .config ++ .command word :: back.map .config)) =
      .ok (some { config := (front ++ back).getLast?.getD usual, command := some word }) := by
  have alone : words (front.map .config ++ .command word :: back.map .config) = [word] := by
    rw [words_append,words_map_config]
    exact congrArg (word :: ·) (words_map_config back)
  have given : values (front.map .config ++ .command word :: back.map .config) =
      front ++ back := by
    rw [values,List.filterMap_append]
    exact congrArg₂ (· ++ ·) (values_map_config front) (values_map_config back)
  rw [parse_line usual ⟨by simp [alone,bare],by simp [alone]⟩,said,alone,given]
  rfl

/-- Every line of arguments is read, and exactly as the grammar says. Where neither a call for help
nor a mistake ends the reading, it is of no account between which options the command stands. -/
theorem parse_iff_reads (usual : String) (arguments : List String) :
    (∀ reply, (parse usual arguments).mapError ArgumentError.message = reply ↔
      Reads usual arguments reply) ∧
    ∀ (word : String) (front back others rest : List String), isDashed word = false →
      front ++ back = others ++ rest →
      parse usual (line (front.map .config ++ .command word :: back.map .config)) =
        parse usual (line (others.map .config ++ .command word :: rest.map .config)) := by
  refine ⟨fun reply => ⟨?_,Reads.parse_eq⟩,?_⟩
  · rintro rfl
    exact @reads_read usual [] arguments _ .nil rfl
  · intro word front back others rest bare same
    rw [parse_around usual bare,parse_around usual bare,same]

/-- A value may look like a call for help, and may be empty. -/
theorem parse_iff_reads_moved :
    isDashed "list" = false ∧ ["--help"] ++ [""] = [] ++ ["--help",""] ∧
      line ([].map .config ++ .command "list" :: ["--help",""].map .config) =
        ["list","--config","--help","--config",""] ∧
      parse "usual" ["--config","--help","list","--config",""] =
        parse "usual" ["list","--config","--help","--config",""] ∧
      parse "usual" ["list","--config","--help","--config",""] =
        .ok (some { config := "", command := some "list" }) :=
  have bare : isDashed "list" = false := by decide
  ⟨bare,rfl,rfl,
    (parse_iff_reads "usual" []).2 "list" ["--help"] [""] [] ["--help",""] bare rfl,
    by decide +kernel⟩

end MountHub.Arguments
