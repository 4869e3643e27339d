import ExQServe.Model.DeepSeekV4.Dump
import ExQServe.Model.DeepSeekV4.Finding

/-! # The layout of written calls

The search for a close over a text that is laid out as the encoder does: tags and line breaks,
arguments, and the close. -/

namespace ExQServe.Model.DeepSeekV4

open ExQServe.Search

/-! ## Tags -/

def tags : List PyStr :=
  [toolBlockOpen, toolBlockClose, invokeOpenPrefix, invokeClose, parameterOpenPrefix,
    parameterClose]

theorem tags_headed : ∀ tag ∈ tags, Headed (chr '<') tag := by
  decide

theorem tags_apart : ∀ tag ∈ tags, ∀ pattern ∈ tags, tag ≠ pattern → ∀ position < tag.length,
    ¬pattern <+: tag.drop position ∧ ¬tag.drop position <+: pattern := by
  decide

theorem tag_absent {tag pattern : PyStr} (isTag : tag ∈ tags) (isPattern : pattern ∈ tags)
    (other : tag ≠ pattern) (rest : PyStr) : Absent pattern tag rest :=
  absent_of_apart (tags_apart tag isTag pattern isPattern other) rest

/-- No tag starts in a text without `<`. -/
theorem plain_absent {text pattern : PyStr} (isPattern : pattern ∈ tags) (plain : chr '<' ∉ text)
    (rest : PyStr) : Absent pattern text rest :=
  absent_of_not_mem (tags_headed pattern isPattern) plain rest

theorem name_free {name : PyStr} (valid : validName name = true) {char : PyChar}
    (forbidden : forbiddenInName char = true) : char ∉ name := by
  intro member
  rw [validName, Bool.and_eq_true, Bool.not_eq_true'] at valid
  exact absurd forbidden (List.any_eq_false.mp valid.2 char member)

def searched : List PyStr := [toolBlockClose, invokeClose]

theorem searched_tags {marker : PyStr} (known : marker ∈ searched) :
    marker ∈ tags ∧ marker ≠ parameterOpenPrefix ∧ marker ≠ parameterClose ∧
      marker ≠ invokeOpenPrefix := by
  have all : ∀ marker ∈ searched, marker ∈ tags ∧ marker ≠ parameterOpenPrefix ∧
      marker ≠ parameterClose ∧ marker ≠ invokeOpenPrefix := by
    decide
  exact all marker known

/-! ## Gaps -/

inductive Gap (marker : PyStr) : PyStr → Prop
  | nil : Gap marker []
  | line {gap : PyStr} (rest : Gap marker gap) : Gap marker (chr '\n' :: gap)
  | tag {tag gap : PyStr} (known : tag ∈ [toolBlockOpen, invokeClose]) (other : tag ≠ marker)
      (rest : Gap marker gap) : Gap marker (tag ++ gap)
  | invoke {name gap : PyStr} (valid : validName name = true) (rest : Gap marker gap) :
      Gap marker (invokeOpenPrefix ++ (name ++ (quoteClose ++ gap)))

theorem gapTag_tags {tag : PyStr} (known : tag ∈ [toolBlockOpen, invokeClose]) :
    tag ∈ tags ∧ tag ≠ parameterOpenPrefix ∧ tag ≠ invokeOpenPrefix := by
  have all : ∀ tag ∈ [toolBlockOpen, invokeClose],
      tag ∈ tags ∧ tag ≠ parameterOpenPrefix ∧ tag ≠ invokeOpenPrefix := by
    decide
  exact all tag known

variable {marker gap : PyStr}

theorem Gap.append {gap' : PyStr} (isGap : Gap marker gap) (isGap' : Gap marker gap') :
    Gap marker (gap ++ gap') := by
  induction isGap with
  | nil => exact isGap'
  | line rest induction => exact .line induction
  | tag known other rest induction =>
      rw [List.append_assoc]
      exact .tag known other induction
  | invoke valid rest induction =>
      rw [List.append_assoc, List.append_assoc, List.append_assoc]
      exact .invoke valid induction

/-- Neither the close nor an argument starts in a gap. -/
theorem Gap.absent (isGap : Gap marker gap) (known : marker ∈ searched) {pattern : PyStr}
    (isPattern : pattern = marker ∨ pattern = parameterOpenPrefix) (rest : PyStr) :
    Absent pattern gap rest := by
  have facts := searched_tags known
  have isTag : pattern ∈ tags := by
    rcases isPattern with same | same
    · exact same ▸ facts.1
    · rw [same]
      decide
  have different : ∀ {tag : PyStr}, tag ≠ marker → tag ≠ parameterOpenPrefix → tag ≠ pattern := by
    intro tag other notParameter
    rcases isPattern with same | same
    · exact same ▸ other
    · exact same ▸ notParameter
  induction isGap with
  | nil => exact fun position inside => absurd inside (Nat.not_lt_zero _)
  | @line gap _ induction =>
      exact (@plain_absent [chr '\n'] _ isTag (by decide) (gap ++ rest)).append induction
  | @tag tag gap member other _ induction =>
      have tagFacts := gapTag_tags member
      exact (tag_absent tagFacts.1 isTag (different other tagFacts.2.1) (gap ++ rest)).append
        induction
  | @invoke name gap valid _ induction =>
      apply Absent.append
      · apply tag_absent (by decide) isTag
        exact different (Ne.symm facts.2.2.2) (by decide)
      · apply (plain_absent isTag (name_free valid (by decide)) _).append
        exact (@plain_absent quoteClose _ isTag (by decide) _).append induction

/-- Only line breaks stand before the next tag. -/
theorem Gap.solid {rest : PyStr} (isGap : Gap marker gap) (tag : rest.head? = some (chr '<')) :
    ((gap ++ rest).dropWhile PyChar.isSpace).head? = some (chr '<') := by
  have solid : ∀ {text : PyStr}, text.head? = some (chr '<') →
      (text.dropWhile PyChar.isSpace).head? = some (chr '<') := by
    intro text head
    cases text with
    | nil => cases head
    | cons char text =>
        cases head
        rw [List.dropWhile_cons_of_neg (by decide)]
        rfl
  induction isGap with
  | nil => exact solid tag
  | line rest induction =>
      rw [List.cons_append, List.dropWhile_cons_of_pos (by decide)]
      exact induction
  | @tag tag gap known other _ _ =>
      apply solid
      rw [List.append_assoc]
      exact (tags_headed tag (gapTag_tags known).1).head?_append _
  | invoke valid _ _ =>
      apply solid
      rw [List.append_assoc]
      exact (tags_headed invokeOpenPrefix (by decide)).head?_append _

/-- The first invoke in a gap, if it has one. -/
theorem Gap.invoke_cases (isGap : Gap marker gap) :
    (∀ rest, Absent invokeOpenPrefix gap rest) ∨
      ∃ before name after, gap = before ++ (invokeOpenPrefix ++ (name ++ (quoteClose ++ after))) ∧
        (∀ rest, Absent invokeOpenPrefix before rest) ∧ validName name = true ∧
          Gap marker after := by
  have behind : ∀ {piece gap : PyStr}, (∀ rest, Absent invokeOpenPrefix piece rest) →
      ((∀ rest, Absent invokeOpenPrefix gap rest) ∨
        ∃ before name after, gap = before ++ (invokeOpenPrefix ++ (name ++ (quoteClose ++ after))) ∧
          (∀ rest, Absent invokeOpenPrefix before rest) ∧ validName name = true ∧
            Gap marker after) →
      ((∀ rest, Absent invokeOpenPrefix (piece ++ gap) rest) ∨
        ∃ before name after,
          piece ++ gap = before ++ (invokeOpenPrefix ++ (name ++ (quoteClose ++ after))) ∧
          (∀ rest, Absent invokeOpenPrefix before rest) ∧ validName name = true ∧
            Gap marker after) := by
    intro piece gap absent cases_
    rcases cases_ with none | ⟨before, name, after, split, absent', valid, rest⟩
    · exact .inl fun rest => (absent _).append (none rest)
    · refine .inr ⟨piece ++ before, name, after, ?_, fun rest => (absent _).append (absent' rest),
        valid, rest⟩
      rw [split, List.append_assoc]
  induction isGap with
  | nil => exact .inl fun rest position inside => absurd inside (Nat.not_lt_zero _)
  | line _ induction =>
      exact behind (@plain_absent [chr '\n'] _ (by decide) (by decide)) induction
  | tag known _ _ induction =>
      have facts := gapTag_tags known
      exact behind (tag_absent facts.1 (by decide) facts.2.2) induction
  | invoke valid rest _ =>
      exact .inr ⟨[], _, _, rfl, fun _ _ inside => absurd inside (Nat.not_lt_zero _), valid, rest⟩

/-! ## Finding behind a front -/

theorem findFrom_front (pattern front tail : PyStr) :
    findFrom pattern (front ++ tail) front.length = (find pattern tail).map (front.length + ·) := by
  rw [findFrom, List.drop_left]

/-- A search up to a place before which the pattern does not start. -/
theorem findWithin_none {pattern before after front : PyStr} {stop : Nat}
    (nonempty : pattern ≠ []) (absent : Absent pattern before after)
    (short : stop ≤ front.length + before.length) :
    findWithin pattern (front ++ (before ++ after)) front.length stop = none := by
  cases found : findWithin pattern (front ++ (before ++ after)) front.length stop with
  | none => rfl
  | some position =>
      have bound := findWithin_bound nonempty found
      have positive := List.length_pos_iff.mpr nonempty
      have facts := findFrom_eq_some found
      have occurs : Occurs pattern (front ++ (before ++ after)) position :=
        facts.2.1.trans ((List.take_prefix stop _).drop position)
      have beyond := absent.le_of_occurs occurs bound.1
      omega

theorem findWithin_some {pattern before after front : PyStr} {stop : Nat} (nonempty : pattern ≠ [])
    (absent : Absent pattern before (pattern ++ after))
    (long : front.length + before.length + pattern.length ≤ stop) :
    findWithin pattern (front ++ (before ++ (pattern ++ after))) front.length stop =
      some (front.length + before.length) := by
  rw [findWithin]
  have stopLength : (front ++ (before ++ (pattern ++ after))).take stop =
      front ++ (before ++ (pattern ++ after.take (stop - (front.length + before.length +
        pattern.length)))) := by
    rw [List.take_append, List.take_append, List.take_append, List.take_of_length_le (by omega),
      List.take_of_length_le (by omega), List.take_of_length_le (by omega)]
    congr 4
    omega
  have absent' : Absent pattern before (pattern ++ after.take
      (stop - (front.length + before.length + pattern.length))) := by
    intro position inside occurs
    apply absent position inside
    have longer := occurs.append nonempty
      (after.drop (stop - (front.length + before.length + pattern.length)))
    rw [List.append_assoc, List.append_assoc, List.take_append_drop] at longer
    exact longer
  rw [stopLength, findFrom_front, absent'.find_here nonempty]
  rfl

/-! ## The turns of the search -/

theorem quote_absent {name : PyStr} (plain : chr '"' ∉ name) (rest : PyStr) :
    Absent quoteClose name rest :=
  absent_of_not_mem (by decide : Headed (chr '"') quoteClose) plain rest

theorem find_name {name : PyStr} (plain : chr '"' ∉ name) (front rest : PyStr) :
    findFrom quoteClose (front ++ (name ++ (quoteClose ++ rest))) front.length =
      some (front.length + name.length) := by
  rw [findFrom_front, (quote_absent plain _).find_here (by decide)]
  rfl

theorem head?_drop_takeWhile (test : PyChar → Bool) (text : PyStr) :
    text[(text.takeWhile test).length]? = (text.dropWhile test).head? := by
  have split := @List.takeWhile_append_dropWhile _ test text
  have behind : (text.takeWhile test ++ text.dropWhile test)[(text.takeWhile test).length]? =
      (text.dropWhile test).head? := by
    rw [List.getElem?_append_right (Nat.le_refl _), Nat.sub_self, List.head?_eq_getElem?]
  rw [split] at behind
  exact behind

/-- An invoke whose name is followed by a tag has no direct payload. -/
theorem span_none {front name after : PyStr} (valid : validName name = true)
    (solid : (after.dropWhile PyChar.isSpace).head? = some (chr '<')) :
    directJsonPayloadSpan (front ++ (invokeOpenPrefix ++ (name ++ (quoteClose ++ after))))
      front.length none = (none, none) ∧
    findFrom quoteClose (front ++ (invokeOpenPrefix ++ (name ++ (quoteClose ++ after))))
      (front.length + invokeOpenPrefix.length) =
        some (front.length + invokeOpenPrefix.length + name.length) := by
  have named := find_name (name_free valid (by decide)) (front ++ invokeOpenPrefix) after
  rw [List.append_assoc, List.length_append] at named
  refine ⟨?_, named⟩
  have rest : (front ++ (invokeOpenPrefix ++ (name ++ (quoteClose ++ after)))).drop
      (front.length + invokeOpenPrefix.length + name.length + 2) = after := by
    have shape : front ++ (invokeOpenPrefix ++ (name ++ (quoteClose ++ after))) =
        (front ++ invokeOpenPrefix ++ name ++ quoteClose) ++ after := by
      simp only [List.append_assoc]
    have length : (front ++ invokeOpenPrefix ++ name ++ quoteClose).length =
        front.length + invokeOpenPrefix.length + name.length + 2 := by
      simp only [List.length_append]
      rfl
    rw [shape, ← length, List.drop_left]
  have next : ∀ size, (front ++ (invokeOpenPrefix ++ (name ++ (quoteClose ++ after))))[
      front.length + invokeOpenPrefix.length + name.length + 2 + size]? = after[size]? := by
    intro size
    rw [← List.getElem?_drop, rest]
  rw [directJsonPayloadSpan, named]
  dsimp only
  rw [rest, next, head?_drop_takeWhile, solid, if_pos (by decide)]

/-- An invoke in the gap is no direct one, so that the turn looks for arguments. -/
theorem closeStep_gap {front rest : PyStr} {markerAt : Nat} (isGap : Gap marker gap)
    (known : marker ∈ searched)
    (next : (∃ more, rest = marker ++ more ∧ markerAt = front.length + gap.length) ∨
      ∃ more, rest = parameterOpenPrefix ++ more ∧
        front.length + gap.length + parameterOpenPrefix.length ≤ markerAt)
    (marked : findFrom marker (front ++ (gap ++ rest)) front.length = some markerAt) :
    closeStep (front ++ (gap ++ rest)) marker front.length none =
        (taggedStep (front ++ (gap ++ rest)) marker front.length markerAt, none) ∧
      looksPast (front ++ (gap ++ rest)) marker front.length = false := by
  have facts := searched_tags known
  have tag : rest.head? = some (chr '<') := by
    rcases next with ⟨more, split, -⟩ | ⟨more, split, -⟩
    · exact split ▸ (tags_headed marker facts.1).head?_append more
    · exact split ▸ (tags_headed parameterOpenPrefix (by decide)).head?_append more
  have behind : front.length + gap.length ≤ markerAt := by
    rcases next with ⟨_, _, here⟩ | ⟨_, _, before⟩
    · omega
    · omega
  have noParameter : ∀ {parameterAt}, findWithin parameterOpenPrefix (front ++ (gap ++ rest))
      front.length markerAt = some parameterAt → front.length + gap.length ≤ parameterAt := by
    intro parameterAt found
    have occurs := (findFrom_eq_some found).2.1
    exact (isGap.absent known (.inr rfl) rest).le_of_occurs
      (occurs.trans ((List.take_prefix markerAt _).drop parameterAt))
      (findWithin_bound (by decide) found).1
  rcases isGap.invoke_cases with noInvoke | ⟨before, name, after, split, absent, valid, isGap'⟩
  · have leading : leadingInvoke (front ++ (gap ++ rest)) front.length markerAt = none := by
      rw [leadingInvoke]
      cases invoke : findWithin invokeOpenPrefix (front ++ (gap ++ rest)) front.length markerAt with
      | none => rfl
      | some invokeAt =>
          have occurs := (findFrom_eq_some invoke).2.1
          have bound := findWithin_bound (by decide) invoke
          have beyond := (noInvoke rest).le_of_occurs
            (occurs.trans ((List.take_prefix markerAt _).drop invokeAt)) bound.1
          rcases next with ⟨more, -, here⟩ | ⟨more, shape, room⟩
          · have positive : 0 < invokeOpenPrefix.length := by decide
            omega
          · have absent := isGap.absent known (.inr rfl) (parameterOpenPrefix ++ more)
            have found := @findWithin_some parameterOpenPrefix gap more front markerAt
              (by decide) absent room
            rw [shape, found]
            dsimp only
            rw [if_neg (by omega)]
    constructor
    · rw [closeStep, marked]
      dsimp only
      rw [leading]
    · rw [looksPast, marked]
      dsimp only
      rw [leading]
  · have shape : front ++ (gap ++ rest) = (front ++ before) ++
        (invokeOpenPrefix ++ (name ++ (quoteClose ++ (after ++ rest)))) := by
      rw [split]
      simp only [List.append_assoc]
    have span := @span_none (front ++ before) name (after ++ rest) valid (isGap'.solid tag)
    have length : gap.length = before.length + invokeOpenPrefix.length + name.length + 2 +
        after.length := by
      rw [split]
      simp only [List.length_append]
      have two : quoteClose.length = 2 := rfl
      omega
    have leading : leadingInvoke (front ++ (gap ++ rest)) front.length markerAt =
        some (front.length + before.length) := by
      have found : findWithin invokeOpenPrefix (front ++ (gap ++ rest)) front.length markerAt =
          some (front.length + before.length) := by
        have reach := @findWithin_some invokeOpenPrefix before
          (name ++ (quoteClose ++ (after ++ rest))) front markerAt (by decide) (absent _) (by omega)
        rw [shape, List.append_assoc]
        exact reach
      rw [leadingInvoke, found]
      dsimp only
      cases parameter : findWithin parameterOpenPrefix (front ++ (gap ++ rest)) front.length
          markerAt with
      | none => rfl
      | some parameterAt =>
          have beyond := noParameter parameter
          dsimp only
          rw [if_pos (by omega)]
    rw [List.length_append, ← shape] at span
    constructor
    · rw [closeStep, marked]
      dsimp only
      rw [leading]
      dsimp only
      rw [span.1]
    · rw [looksPast, marked]
      dsimp only
      rw [leading]
      dsimp only
      rw [span.2]
      dsimp only
      rw [decide_eq_false (by omega), Bool.false_and]

/-! ## Arguments -/

/-- A name that the scanners read whole: it holds no close that is searched for, and the end of
its quotes comes first where it stands. -/
structure KeyPlain (key : PyStr) : Prop where
  nonempty : key ≠ []
  free : ∀ marker ∈ searched, ¬marker <:+: key
  ends : find stringFlag (key ++ stringFlag) = some key.length

def argumentOpen (key flag : PyStr) : PyStr :=
  parameterOpenPrefix ++ (key ++ (stringFlag ++ (flag ++ quoteClose)))

inductive Argument : PyStr → Prop
  | raw {key text : PyStr} (plain : KeyPlain key)
      (free : ∀ marker ∈ parameterClose :: searched, ¬marker <:+: text) :
      Argument (argumentOpen key (py "true") ++ (text ++ parameterClose))
  | json {key text : PyStr} (plain : KeyPlain key) (quoted : Quoted text) :
      Argument (argumentOpen key (py "false") ++ (text ++ parameterClose))

theorem KeyPlain.find {key : PyStr} (plain : KeyPlain key) (rest : PyStr) :
    find stringFlag (key ++ (stringFlag ++ rest)) = some key.length := by
  have found := find_append_of_some (by decide) plain.ends rest
  rw [List.append_assoc] at found
  exact found

/-- The close does not start in the opening of an argument. -/
theorem argumentOpen_absent {key flag : PyStr} (known : marker ∈ searched) (plain : KeyPlain key)
    (flagged : chr '<' ∉ flag) (rest : PyStr) : Absent marker (argumentOpen key flag) rest := by
  have facts := searched_tags known
  have noQuote : ∀ marker ∈ searched, chr '"' ∉ marker := by
    intro marker member
    simp only [searched, List.mem_cons, List.not_mem_nil, or_false] at member
    rcases member with same | same
    · rw [same]; decide
    · rw [same]; decide
  rw [argumentOpen]
  apply Absent.append (tag_absent (by decide) facts.1 (Ne.symm facts.2.1) _)
  apply Absent.append
  · exact absent_of_barrier (plain.free marker known) rfl (noQuote marker known)
  · apply Absent.append (plain_absent facts.1 (by decide) _)
    exact (plain_absent facts.1 flagged _).append (plain_absent facts.1 (by decide) _)

/-- What `parameterStep` reads at an argument. -/
theorem argument_reads {front key flag rest : PyStr} (plain : KeyPlain key)
    (flagged : chr '"' ∉ flag) :
    findFrom stringFlag (front ++ (argumentOpen key flag ++ rest))
        (front.length + parameterOpenPrefix.length) =
      some (front.length + parameterOpenPrefix.length + key.length) ∧
    findFrom quoteClose (front ++ (argumentOpen key flag ++ rest))
        (front.length + parameterOpenPrefix.length + key.length + stringFlag.length) =
      some (front.length + parameterOpenPrefix.length + key.length + stringFlag.length +
        flag.length) ∧
    (front ++ (argumentOpen key flag ++ rest)).slice
        (front.length + parameterOpenPrefix.length + key.length + stringFlag.length)
        (front.length + parameterOpenPrefix.length + key.length + stringFlag.length +
          flag.length) = flag := by
  have shape : front ++ (argumentOpen key flag ++ rest) =
      (front ++ parameterOpenPrefix) ++ (key ++
        (stringFlag ++ (flag ++ (quoteClose ++ rest)))) := by
    rw [argumentOpen]
    simp only [List.append_assoc]
  have shape' : front ++ (argumentOpen key flag ++ rest) =
      (front ++ parameterOpenPrefix ++ key ++ stringFlag) ++ (flag ++ (quoteClose ++ rest)) := by
    rw [argumentOpen]
    simp only [List.append_assoc]
  have size : (front ++ parameterOpenPrefix ++ key ++ stringFlag).length =
      front.length + parameterOpenPrefix.length + key.length + stringFlag.length := by
    simp only [List.length_append]
  refine ⟨?_, ?_, ?_⟩
  · rw [shape, ← List.length_append, findFrom_front, plain.find]
    rfl
  · rw [shape', ← size, find_name flagged]
  · rw [shape', ← size, PyStr.slice, ← List.append_assoc _ flag, ← List.length_append,
      List.take_left, List.drop_left]

theorem argumentOpen_length (key flag : PyStr) : (argumentOpen key flag).length =
    parameterOpenPrefix.length + key.length + stringFlag.length + flag.length + 2 := by
  rw [argumentOpen]
  simp only [List.length_append]
  have two : quoteClose.length = 2 := rfl
  omega

/-- The close behind a text in which tags stand only in strings. -/
theorem findOutsideStrings_quoted {pattern front text rest : PyStr} (quoted : Quoted text)
    (tag : pattern.head? = some (chr '<')) :
    findOutsideStrings pattern (front ++ (text ++ rest)) front.length =
      (findOutside pattern .outside rest).map (front.length + text.length + ·) := by
  rw [findOutsideStrings, List.drop_left, quoted pattern rest tag, Option.map_map]
  congr 1
  funext position
  exact (Nat.add_assoc _ _ _).symm

theorem findOutside_self {pattern rest : PyStr} (tag : pattern.head? = some (chr '<')) :
    findOutside pattern .outside (pattern ++ rest) = some 0 := by
  cases pattern with
  | nil => cases tag
  | cons char pattern => exact if_pos ⟨rfl, List.prefix_append _ _⟩

/-- At an argument the search goes on behind it. -/
theorem parameterStep_argument {front argument rest : PyStr} {markerAt : Nat}
    (known : marker ∈ searched) (isArgument : Argument argument)
    (occurs : Occurs marker (front ++ (argument ++ rest)) markerAt)
    (behind : front.length ≤ markerAt) :
    parameterStep (front ++ (argument ++ rest)) marker markerAt front.length =
      .resume (front.length + argument.length) := by
  have facts := searched_tags known
  cases isArgument with
  | @raw key text plain free =>
      have shape : front ++ (argumentOpen key (py "true") ++ (text ++ parameterClose) ++ rest) =
          front ++ (argumentOpen key (py "true") ++ (text ++ (parameterClose ++ rest))) := by
        simp only [List.append_assoc]
      rw [shape] at occurs ⊢
      have reads := @argument_reads front key (py "true") (text ++ (parameterClose ++ rest)) plain
        (by decide)
      have size := argumentOpen_length key (py "true")
      have headed := tags_headed parameterClose (by decide)
      have close : findFrom parameterClose
          (front ++ (argumentOpen key (py "true") ++ (text ++ (parameterClose ++ rest))))
          (front.length + (argumentOpen key (py "true")).length) =
            some (front.length + (argumentOpen key (py "true")).length + text.length) := by
        rw [← List.append_assoc front, ← List.length_append, findFrom_front,
          headed.find_here (free parameterClose List.mem_cons_self)]
        rfl
      have absent : Absent marker
          (argumentOpen key (py "true") ++ (text ++ parameterClose)) rest := by
        apply Absent.append (argumentOpen_absent known plain (by decide) _)
        apply Absent.append ?_ (tag_absent (by decide) facts.1 (Ne.symm facts.2.2.1) _)
        apply (tags_headed marker facts.1).absent (free marker (List.mem_cons_of_mem _ known))
        intro first here
        rw [headed.head?_append] at here
        exact (Option.some.inj here).symm
      rw [← shape] at occurs
      have beyond := absent.le_of_occurs occurs behind
      simp only [List.length_append] at beyond ⊢
      rw [parameterStep, reads.1]
      dsimp only
      rw [if_neg (by omega), reads.2.1]
      dsimp only
      have start : front.length + parameterOpenPrefix.length + key.length + stringFlag.length +
          (py "true").length + 2 = front.length + (argumentOpen key (py "true")).length := by
        omega
      have closeLength : parameterClose.length = 18 := by decide
      rw [if_neg (by omega), if_pos reads.2.2, start, close]
      dsimp only
      rw [if_neg (by omega)]
      congr 1
      omega
  | @json key text plain quoted =>
      have shape : front ++ (argumentOpen key (py "false") ++ (text ++ parameterClose) ++ rest) =
          front ++ (argumentOpen key (py "false") ++ (text ++ (parameterClose ++ rest))) := by
        simp only [List.append_assoc]
      rw [shape] at occurs ⊢
      have reads := @argument_reads front key (py "false") (text ++ (parameterClose ++ rest)) plain
        (by decide)
      have size := argumentOpen_length key (py "false")
      have headed := tags_headed parameterClose (by decide)
      have beyond := (argumentOpen_absent known plain (by decide) _).le_of_occurs occurs behind
      have outside : ∀ {pattern : PyStr}, pattern.head? = some (chr '<') →
          findOutsideStrings pattern
            (front ++ (argumentOpen key (py "false") ++ (text ++ (parameterClose ++ rest))))
            (front.length + (argumentOpen key (py "false")).length) =
          (findOutside pattern .outside (parameterClose ++ rest)).map
            (front.length + (argumentOpen key (py "false")).length + text.length + ·) := by
        intro pattern tag
        rw [← List.append_assoc front, ← List.length_append, findOutsideStrings_quoted quoted tag]
      have close := outside headed.starts
      rw [findOutside_self headed.starts, Option.map_some, Nat.add_zero] at close
      have start : front.length + parameterOpenPrefix.length + key.length + stringFlag.length +
          (py "false").length + 2 = front.length + (argumentOpen key (py "false")).length := by
        omega
      rw [parameterStep, reads.1]
      dsimp only
      rw [if_neg (by omega), reads.2.1]
      dsimp only
      rw [if_neg (by omega), if_neg (by rw [reads.2.2]; decide), if_pos reads.2.2, start,
        findJsonParameterClose, close]
      dsimp only
      rw [if_neg facts.2.2.1, outside (tags_headed marker facts.1).starts]
      simp only [List.length_append]
      cases findOutside marker .outside (parameterClose ++ rest) with
      | none =>
          dsimp only [Option.map_none]
          congr 1
          omega
      | some position =>
          dsimp only [Option.map_some]
          rw [if_neg (by omega)]
          congr 1
          omega

/-! ## Layouts -/

/-- A text with its close: gaps and arguments before it, anything behind. -/
inductive Layout (marker : PyStr) : PyStr → Nat → Prop
  | close {gap : PyStr} (isGap : Gap marker gap) (more : PyStr) :
      Layout marker (gap ++ (marker ++ more)) gap.length
  | argument {gap argument tail : PyStr} {close : Nat} (isGap : Gap marker gap)
      (isArgument : Argument argument) (later : Layout marker tail close) :
      Layout marker (gap ++ (argument ++ tail)) (gap.length + argument.length + close)

theorem Layout.occurs {text : PyStr} {close : Nat} (layout : Layout marker text close) :
    Occurs marker text close := by
  induction layout with
  | close isGap more =>
      rw [Occurs, List.drop_left]
      exact List.prefix_append _ _
  | argument isGap isArgument later induction =>
      rw [← List.append_assoc, ← List.length_append, occurs_append_length_add]
      exact induction

theorem Argument.split {argument : PyStr} (isArgument : Argument argument) :
    ∃ key flag text, KeyPlain key ∧ chr '<' ∉ flag ∧
      argument = argumentOpen key flag ++ (text ++ parameterClose) := by
  cases isArgument with
  | raw plain free => exact ⟨_, _, _, plain, by decide, rfl⟩
  | json plain quoted => exact ⟨_, _, _, plain, by decide, rfl⟩

theorem Layout.step_close {front more : PyStr} (known : marker ∈ searched)
    (isGap : Gap marker gap) :
    closeStep (front ++ (gap ++ (marker ++ more))) marker front.length none =
        (.found (front.length + gap.length), none) ∧
      looksPast (front ++ (gap ++ (marker ++ more))) marker front.length = false := by
  have facts := searched_tags known
  have absent := isGap.absent known (.inl rfl) (marker ++ more)
  have marked : findFrom marker (front ++ (gap ++ (marker ++ more))) front.length =
      some (front.length + gap.length) := by
    rw [findFrom_front, absent.find_here (tags_headed marker facts.1).nonempty]
    rfl
  rcases closeStep_gap isGap known (.inl ⟨more, rfl, rfl⟩) marked with ⟨stepped, steady⟩
  refine ⟨?_, steady⟩
  rw [stepped, taggedStep, findWithin_none (by decide)
    (isGap.absent known (.inr rfl) (marker ++ more)) (Nat.le_refl _)]

theorem Layout.step_argument {front argument tail : PyStr} {close : Nat} (known : marker ∈ searched)
    (isGap : Gap marker gap) (isArgument : Argument argument)
    (later : Layout marker tail close) :
    closeStep (front ++ (gap ++ (argument ++ tail))) marker front.length none =
        (.resume (front.length + gap.length + argument.length), none) ∧
      looksPast (front ++ (gap ++ (argument ++ tail))) marker front.length = false := by
  have facts := searched_tags known
  have nonempty := (tags_headed marker facts.1).nonempty
  have there : Occurs marker (front ++ (gap ++ (argument ++ tail)))
      (front.length + (gap.length + argument.length + close)) := by
    rw [occurs_append_length_add, ← List.append_assoc, ← List.length_append,
      occurs_append_length_add]
    exact later.occurs
  cases marked : findFrom marker (front ++ (gap ++ (argument ++ tail))) front.length with
  | none => exact absurd there (findFrom_eq_none nonempty marked _ (Nat.le_add_right _ _))
  | some markerAt =>
      have found := findFrom_eq_some marked
      rcases isArgument.split with ⟨key, flag, text, plain, flagged, split⟩
      have shape : argument ++ tail = argumentOpen key flag ++
        (text ++ parameterClose ++ tail) := by
        rw [split]
        simp only [List.append_assoc]
      have opener : ∃ more, argument ++ tail = parameterOpenPrefix ++ more := by
        rw [shape, argumentOpen, List.append_assoc]
        exact ⟨_, rfl⟩
      have beyond : front.length + gap.length + parameterOpenPrefix.length ≤ markerAt := by
        have absent : Absent marker (gap ++ argumentOpen key flag)
            (text ++ parameterClose ++ tail) :=
          (isGap.absent known (.inl rfl) _).append (argumentOpen_absent known plain flagged _)
        have occurs := found.2.1
        rw [shape, ← List.append_assoc gap] at occurs
        have bound := absent.le_of_occurs occurs found.1
        have size := argumentOpen_length key flag
        rw [List.length_append] at bound
        omega
      rcases opener with ⟨more, opens⟩
      rcases closeStep_gap isGap known (.inr ⟨more, opens, beyond⟩) marked with ⟨stepped, steady⟩
      refine ⟨?_, steady⟩
      have parameter : findWithin parameterOpenPrefix (front ++ (gap ++ (argument ++ tail)))
          front.length markerAt = some (front.length + gap.length) := by
        rw [opens]
        exact findWithin_some (by decide) (isGap.absent known (.inr rfl) _) beyond
      have occurs := found.2.1
      rw [stepped, taggedStep, parameter]
      dsimp only
      rw [← List.append_assoc front] at occurs
      rw [← List.append_assoc front, ← List.length_append]
      rw [parameterStep_argument known isArgument occurs (by rw [List.length_append]; omega)]

/-- The search finds the close of the layout, and it is steady. -/
theorem Layout.found {text : PyStr} {close : Nat} (known : marker ∈ searched)
    (layout : Layout marker text close) {turns : Nat} (enough : text.length < turns)
    (front : PyStr) :
    (findDsmlCloseFrom (front ++ text) marker turns front.length none).1 =
        some (front.length + close) ∧
      steadyFrom (front ++ text) marker turns front.length = true := by
  have nonempty := (tags_headed marker (searched_tags known).1).nonempty
  have positive := List.length_pos_iff.mpr nonempty
  induction layout generalizing turns front with
  | @close gap isGap more =>
      cases turns with
      | zero => exact absurd enough (Nat.not_lt_zero _)
      | succ turns =>
          have stepped := @Layout.step_close marker gap front more known isGap
          rw [findDsmlCloseFrom, steadyFrom, stepped.1, stepped.2, if_neg (by
            simp only [List.length_append]
            omega)]
          exact ⟨rfl, rfl⟩
  | @argument gap argument tail close isGap isArgument later induction =>
      cases turns with
      | zero => exact absurd enough (Nat.not_lt_zero _)
      | succ turns =>
          have stepped := @Layout.step_argument marker gap front argument tail close known isGap
            isArgument later
          have bound := later.occurs.end_le nonempty
          simp only [List.length_append] at enough
          have argumentPositive : 0 < argument.length := by
            rcases isArgument.split with ⟨key, flag, text, -, -, split⟩
            rw [split, List.length_append, argumentOpen_length]
            omega
          have later := @induction turns (by omega) (front ++ gap ++ argument)
          have length : (front ++ gap ++ argument).length =
              front.length + gap.length + argument.length := by
            simp only [List.length_append]
          rw [length, List.append_assoc, List.append_assoc] at later
          rw [findDsmlCloseFrom, steadyFrom, stepped.1, stepped.2, if_neg (by
            simp only [List.length_append]
            omega)]
          dsimp only
          rw [later.1, later.2]
          refine ⟨?_, rfl⟩
          congr 1
          omega

theorem Layout.findDsmlClose_eq {text : PyStr} {close : Nat} (known : marker ∈ searched)
    (layout : Layout marker text close) :
    (findDsmlClose text marker 0 none).1 = some close ∧ steady text marker = true := by
  have found := layout.found known (Nat.lt_succ_self _) []
  rw [List.nil_append, List.length_nil, Nat.zero_add] at found
  exact found

/-! ## Building layouts -/

/-- Behind any gap the text has its close at the position. -/
def Follows (marker text : PyStr) (close : Nat) : Prop :=
  ∀ gap, Gap marker gap → Layout marker (gap ++ text) (gap.length + close)

theorem follows_close (marker more : PyStr) : Follows marker (marker ++ more) 0 :=
  fun _ isGap => .close isGap more

theorem Follows.behind {text : PyStr} {close : Nat} (follows : Follows marker text close)
    (isGap : Gap marker gap) : Follows marker (gap ++ text) (gap.length + close) := by
  intro gap' isGap'
  have layout := follows (gap' ++ gap) (isGap'.append isGap)
  rw [List.append_assoc, List.length_append, Nat.add_assoc] at layout
  exact layout

theorem Follows.argument {text argument : PyStr} {close : Nat}
    (follows : Follows marker text close) (isArgument : Argument argument) :
    Follows marker (argument ++ text) (argument.length + close) := by
  intro gap isGap
  have layout := follows [] .nil
  rw [List.nil_append, List.length_nil, Nat.zero_add] at layout
  have whole := Layout.argument isGap isArgument layout
  rw [Nat.add_assoc] at whole
  exact whole

theorem Follows.layout {text : PyStr} {close : Nat} (follows : Follows marker text close) :
    Layout marker text close := by
  have layout := follows [] .nil
  rw [List.nil_append, List.length_nil, Nat.zero_add] at layout
  exact layout

end ExQServe.Model.DeepSeekV4
