import Formula.CommandLine.Session
import Mathlib.Data.List.TakeWhile

/-!
# Ways to cut a text into lines

A line feed ends a line, and so does the end of the text.  Whoever reads a file
takes the line feeds off, and a carriage return in front of them; whoever reads a
stream gets a line with all of its end, and an empty one when nothing is left.
Once the blanks at its two ends are taken off, a line is the same either way.
-/

namespace Formula.CommandLine

open Text

/-! ## Texts line by line -/

/-- The lines of a text without their ends.  The last line may have none. -/
inductive PhysicalLines : List Char → List (List Char) → Prop where
  | nothing : PhysicalLines [] []
  | last {line : List Char} :
      line ≠ [] → '\n' ∉ line → PhysicalLines line [line]
  | feed {line rest : List Char} {others : List (List Char)} :
      '\n' ∉ line → line.getLast? ≠ some '\r' → PhysicalLines rest others →
        PhysicalLines (line ++ '\n' :: rest) (line :: others)
  | returnFeed {line rest : List Char} {others : List (List Char)} :
      '\n' ∉ line → PhysicalLines rest others →
        PhysicalLines (line ++ '\r' :: '\n' :: rest) (line :: others)

/-- What holds of nothing, of a line that the text ends, and of a line that a
line feed ends if it holds behind it, holds of every text. -/
theorem induction_on_lines
    {motive : List Char → Prop}
    (nothing : motive [])
    (last : ∀ line, line ≠ [] → '\n' ∉ line → motive line)
    (feed : ∀ line rest, '\n' ∉ line → motive rest → motive (line ++ '\n' :: rest))
    (text : List Char) :
    motive text := by
  by_cases hasFeed : '\n' ∈ text
  · rcases List.eq_append_cons_of_mem hasFeed with ⟨line, rest, isText, noFeed⟩
    have shorter : rest.length < text.length := by
      simp only [isText, List.length_append, List.length_cons]
      omega
    rw [isText]
    exact feed line rest noFeed (induction_on_lines nothing last feed rest)
  · by_cases isEmpty : text = []
    · exact isEmpty ▸ nothing
    · exact last text isEmpty hasFeed
termination_by text.length

variable {line : List Char}

theorem lines_append
    (noFeed : '\n' ∉ line)
    (rest : List Char) :
    lines (line ++ '\n' :: rest) = line :: lines rest := by
  induction line with
  | nil => rw [List.nil_append, lines, if_pos rfl]
  | cons c line ih =>
      rw [List.mem_cons, not_or] at noFeed
      rw [List.cons_append, lines, if_neg (Ne.symm noFeed.1), ih noFeed.2]

theorem lines_of_last
    (notEmpty : line ≠ [])
    (noFeed : '\n' ∉ line) :
    lines line = [line] := by
  induction line with
  | nil => exact absurd rfl notEmpty
  | cons c line ih =>
      rw [List.mem_cons, not_or] at noFeed
      rw [lines, if_neg (Ne.symm noFeed.1)]
      cases line with
      | nil => rfl
      | cons d line => rw [ih (List.cons_ne_nil _ _) noFeed.2]

/-! ## Reading line by line -/

/-- Reads a line with its end.  At the end of the text there is nothing to read. -/
def readLine : List Char → List Char × List Char
  | [] => ([], [])
  | c :: rest =>
    if c = '\n' then ([c], rest)
    else
      let (line, behind) := readLine rest
      (c :: line, behind)

theorem readLine_append
    (noFeed : '\n' ∉ line)
    (rest : List Char) :
    readLine (line ++ '\n' :: rest) = (line ++ ['\n'], rest) := by
  induction line with
  | nil => rw [List.nil_append, readLine, if_pos rfl, List.nil_append]
  | cons c line ih =>
      rw [List.mem_cons, not_or] at noFeed
      rw [List.cons_append, readLine, if_neg (Ne.symm noFeed.1), ih noFeed.2,
        List.cons_append]

theorem readLine_of_last (noFeed : '\n' ∉ line) : readLine line = (line, []) := by
  induction line with
  | nil => rfl
  | cons c line ih =>
      rw [List.mem_cons, not_or] at noFeed
      rw [readLine, if_neg (Ne.symm noFeed.1), ih noFeed.2]

/-- Where something is left, reading gets on. -/
theorem length_readLine_lt
    {text : List Char}
    (more : (readLine text).1 ≠ []) :
    (readLine text).2.length < text.length := by
  induction text with
  | nil => exact absurd rfl more
  | cons c rest ih =>
      rw [readLine]
      split
      case isTrue => exact Nat.lt_succ_self _
      case isFalse =>
        by_cases isLast : (readLine rest).1 = []
        · cases rest with
          | nil => exact Nat.lt_succ_self _
          | cons d rest =>
              rw [readLine] at isLast
              split at isLast <;> cases isLast
        · exact Nat.lt_succ_of_lt (ih isLast)

/-- The lines of a text with their ends. -/
def endedLines (text : List Char) : List (List Char) :=
  if _more : (readLine text).1 = [] then []
  else (readLine text).1 :: endedLines (readLine text).2
termination_by text.length
decreasing_by exact length_readLine_lt _more

theorem endedLines_nil : endedLines [] = [] := by
  rw [endedLines]
  exact dif_pos rfl

theorem endedLines_append
    (noFeed : '\n' ∉ line)
    (rest : List Char) :
    endedLines (line ++ '\n' :: rest) = (line ++ ['\n']) :: endedLines rest := by
  have notEmpty : line ++ ['\n'] ≠ [] :=
    List.append_ne_nil_of_right_ne_nil line nofun
  rw [endedLines, readLine_append noFeed]
  exact dif_neg notEmpty

theorem endedLines_of_last
    (notEmpty : line ≠ [])
    (noFeed : '\n' ∉ line) :
    endedLines line = [line] := by
  rw [endedLines, readLine_of_last noFeed]
  exact (dif_neg notEmpty).trans (by rw [endedLines_nil])

/-! ## Lines of files -/

/-- The line without its end, if that is a line feed or a carriage return and a
line feed. -/
def chomp (line : List Char) : List Char :=
  match line.reverse with
  | '\n' :: '\r' :: front => front.reverse
  | '\n' :: front => front.reverse
  | _ => line

theorem chomp_feed
    (noReturn : line.getLast? ≠ some '\r') :
    chomp (line ++ ['\n']) = line := by
  rw [← List.head?_reverse] at noReturn
  rw [chomp, List.reverse_append]
  cases reversed : line.reverse with
  | nil => simpa using reversed
  | cons c front =>
      have notReturn : c ≠ '\r' := by simpa [reversed] using noReturn
      have isLine : (c :: front).reverse = line := by
        rw [← reversed, List.reverse_reverse]
      simp [notReturn, isLine]

theorem chomp_returnFeed
    (line : List Char) :
    chomp (line ++ ['\r', '\n']) = line := by
  rw [chomp, List.reverse_append]
  exact line.reverse_reverse

theorem chomp_of_last (noFeed : '\n' ∉ line) : chomp line = line := by
  rw [chomp]
  split
  case h_1 front reversed | h_2 front _ reversed =>
    refine absurd (List.mem_reverse.mp ?_) noFeed
    rw [reversed]
    exact List.mem_cons_self
  case h_3 => rfl

/-- The lines of a file. -/
def fileLines (text : List Char) : List (List Char) :=
  (endedLines text).map chomp

/-- The lines of a file are the physical ones. -/
theorem physicalLines_fileLines
    (text : List Char) :
    PhysicalLines text (fileLines text) := by
  rw [fileLines]
  induction text using induction_on_lines with
  | nothing =>
      rw [endedLines_nil]
      exact .nothing
  | last line notEmpty noFeed =>
      rw [endedLines_of_last notEmpty noFeed, List.map_singleton,
        chomp_of_last noFeed]
      exact .last notEmpty noFeed
  | feed line rest noFeed ih =>
      rw [endedLines_append noFeed, List.map_cons]
      by_cases isReturn : line.getLast? = some '\r'
      · rcases List.getLast?_eq_some_iff.mp isReturn with ⟨front, rfl⟩
        have noFeed' : '\n' ∉ front :=
          fun isMember => noFeed (List.mem_append_left _ isMember)
        rw [List.append_assoc, List.append_assoc]
        rw [show ['\r'] ++ ['\n'] = ['\r', '\n'] from rfl, chomp_returnFeed]
        exact .returnFeed noFeed' ih
      · rw [chomp_feed isReturn]
        exact .feed noFeed isReturn ih

/-! ## Trimmed lines -/

/-- The text of a line without the blanks at its two ends. -/
def trimmed (line : List Char) : String :=
  trim (String.ofList line)

/-- Blanks behind a line make no difference. -/
theorem trimmed_append
    {tail : List Char}
    (blank : ∀ c ∈ tail, isBlank c)
    (line : List Char) :
    trimmed (line ++ tail) = trimmed line := by
  have backwards (chars : List Char) :
      (chars ++ tail).reverse.dropWhile isBlank =
        chars.reverse.dropWhile isBlank := by
    rw [List.reverse_append, List.dropWhile_append_of_pos]
    exact fun c isMember => blank c (List.mem_reverse.mp isMember)
  have nothing : tail.dropWhile isBlank = [] := by
    rw [List.dropWhile_eq_nil_iff]
    exact blank
  rw [trimmed, trimmed, trim, trim, String.toList_ofList, String.toList_ofList,
    List.dropWhile_append]
  split
  case isTrue isEmpty => rw [nothing, List.isEmpty_iff.mp isEmpty]
  case isFalse => rw [backwards]

theorem trimmed_chomp
    (line : List Char) :
    trimmed (chomp line) = trimmed line := by
  rw [chomp]
  split
  case h_1 front reversed =>
    rw [← List.reverse_reverse line, reversed, List.reverse_cons,
      List.reverse_cons, List.append_assoc]
    exact (trimmed_append (by decide) front.reverse).symm
  case h_2 front _ reversed =>
    rw [← List.reverse_reverse line, reversed, List.reverse_cons]
    exact (trimmed_append (by decide) front.reverse).symm
  case h_3 => rfl

/-- Trimmed lines are the same with their ends and without them. -/
theorem map_trimmed_lines (text : List Char) :
    (lines text).map trimmed = (endedLines text).map trimmed := by
  induction text using induction_on_lines with
  | nothing => rw [endedLines_nil, lines]
  | last line notEmpty noFeed =>
      rw [lines_of_last notEmpty noFeed, endedLines_of_last notEmpty noFeed]
  | feed line rest noFeed ih =>
      rw [lines_append noFeed, endedLines_append noFeed, List.map_cons,
        List.map_cons, ih, trimmed_append (by decide)]

theorem map_trimmed_fileLines (text : List Char) :
    (fileLines text).map trimmed = (lines text).map trimmed := by
  rw [fileLines, List.map_map, map_trimmed_lines]
  exact List.map_congr_left fun line _ => trimmed_chomp line

end Formula.CommandLine
