import ExQServe.Foundation.Cutting
import ExQServe.Foundation.Markers

/-! # Text with markers

A text is the sequence of its symbols: the markers that stand in it and the characters between
them. A machine that drains its input by delivering what stands before a marker and then acting
on the marker has read symbols, in whatever pieces the input came. -/

namespace ExQServe.Emission

open ExQServe.Search

inductive Symbol (α : Type)
  | char (char : α)
  | tag (marker : List α)
deriving DecidableEq

namespace Symbol

variable {α : Type}

def text : Symbol α → List α
  | .char letter => [letter]
  | .tag marker => marker

end Symbol

section Symbols

variable {α : Type}

def render (symbols : List (Symbol α)) : List α := symbols.flatMap Symbol.text

@[simp] theorem render_nil : render ([] : List (Symbol α)) = [] := rfl

@[simp] theorem render_char (char : α) (symbols : List (Symbol α)) :
    render (.char char :: symbols) = char :: render symbols := rfl

@[simp] theorem render_tag (marker : List α) (symbols : List (Symbol α)) :
    render (.tag marker :: symbols) = marker ++ render symbols := rfl

variable [DecidableEq α] (markers : List (List α))

def symbolsFrom : Nat → List α → List (Symbol α)
  | _, [] => []
  | skip + 1, _ :: text => symbolsFrom skip text
  | 0, char :: text =>
      match markers.find? fun marker => decide (marker <+: char :: text) with
      | some marker => .tag marker :: symbolsFrom (marker.length - 1) text
      | none => .char char :: symbolsFrom 0 text

def symbolsOf (text : List α) : List (Symbol α) := symbolsFrom markers 0 text

@[simp] theorem symbolsOf_nil : symbolsOf markers [] = [] := by
  rw [symbolsOf, symbolsFrom]

theorem symbolsFrom_eq (skip : Nat) (text : List α) :
    symbolsFrom markers skip text = symbolsOf markers (text.drop skip) := by
  induction text generalizing skip with
  | nil => simp [symbolsFrom]
  | cons char text induction =>
      cases skip with
      | zero => rfl
      | succ skip => rw [symbolsFrom, induction, List.drop_succ_cons]

variable {markers}

theorem symbolsOf_char {char : α} {text : List α}
    (plain : ∀ marker ∈ markers, ¬marker <+: char :: text) :
    symbolsOf markers (char :: text) = .char char :: symbolsOf markers text := by
  have none : (markers.find? fun marker => decide (marker <+: char :: text)) = none := by
    rw [List.find?_eq_none]
    intro marker member
    simpa using plain marker member
  rw [symbolsOf, symbolsFrom, none]
  rfl

theorem symbolsOf_tag (endFree : EndFree markers) {marker : List α} (member : marker ∈ markers)
    (text : List α) :
    symbolsOf markers (marker ++ text) = .tag marker :: symbolsOf markers text := by
  have nonempty := endFree.nonempty marker member
  rcases List.exists_cons_of_ne_nil nonempty with ⟨char, rest, shape⟩
  have here : Occurs marker (marker ++ text) 0 := List.prefix_append marker text
  cases found : markers.find? fun other => decide (other <+: marker ++ text) with
  | none =>
      have absent := List.find?_eq_none.mp found marker member
      simp at absent
  | some other =>
      have begins : other <+: marker ++ text := by simpa using List.find?_some found
      have begins : Occurs other (marker ++ text) 0 := begins
      have same := endFree.unique (List.mem_of_find?_eq_some found) member begins here
      rw [same] at found
      have behind : (rest ++ text).drop (marker.length - 1) = text := by
        rw [shape]
        exact List.drop_left
      have cut : marker ++ text = char :: (rest ++ text) := by rw [shape, List.cons_append]
      rw [cut] at found
      rw [cut, symbolsOf, symbolsFrom, found]
      dsimp only
      rw [symbolsFrom_eq, behind]

def PlainFront (markers : List (List α)) (before after : List α) : Prop :=
  ∀ marker ∈ markers, ∀ position < before.length, ¬marker <+: (before ++ after).drop position

theorem symbolsOf_append {before after : List α} (plain : PlainFront markers before after) :
    symbolsOf markers (before ++ after) = before.map .char ++ symbolsOf markers after := by
  induction before with
  | nil => rfl
  | cons char before induction =>
      have here : ∀ marker ∈ markers, ¬marker <+: char :: (before ++ after) :=
        fun marker member => plain marker member 0 (Nat.succ_pos _)
      have later : PlainFront markers before after := fun marker member position inside =>
        plain marker member (position + 1) (Nat.succ_lt_succ inside)
      rw [List.cons_append, symbolsOf_char here, induction later]
      rfl

theorem render_symbolsFrom (nonempty : ∀ marker ∈ markers, marker ≠ []) (skip : Nat)
    (text : List α) : render (symbolsFrom markers skip text) = text.drop skip := by
  induction text generalizing skip with
  | nil => simp [symbolsFrom]
  | cons char text induction =>
      cases skip with
      | succ skip => rw [symbolsFrom, induction, List.drop_succ_cons]
      | zero =>
          rw [symbolsFrom]
          cases found : markers.find? fun marker => decide (marker <+: char :: text) with
          | none => simp [induction]
          | some marker =>
              have begins : marker <+: char :: text := by simpa using List.find?_some found
              rcases begins with ⟨rest, whole⟩
              dsimp only
              rw [render_tag, induction, List.drop_zero, ← whole]
              cases marker with
              | nil => exact absurd rfl (nonempty [] (List.mem_of_find?_eq_some found))
              | cons first marker =>
                  have behind : text = marker ++ rest := (List.cons.inj whole).2.symm
                  simp [behind]

theorem render_symbolsOf (nonempty : ∀ marker ∈ markers, marker ≠ []) (text : List α) :
    render (symbolsOf markers text) = text := render_symbolsFrom nonempty 0 text

/-- Read again, the text of the symbols has these symbols. -/
def Parted (markers : List (List α)) : List (Symbol α) → Prop
  | [] => True
  | .char char :: symbols =>
      (∀ marker ∈ markers, ¬marker <+: char :: render symbols) ∧ Parted markers symbols
  | .tag marker :: symbols => marker ∈ markers ∧ Parted markers symbols

theorem symbolsOf_render (endFree : EndFree markers) {symbols : List (Symbol α)}
    (parted : Parted markers symbols) : symbolsOf markers (render symbols) = symbols := by
  induction symbols with
  | nil => simp
  | cons symbol symbols induction =>
      cases symbol with
      | char char => rw [render_char, symbolsOf_char parted.1, induction parted.2]
      | tag marker => rw [render_tag, symbolsOf_tag endFree parted.1, induction parted.2]

theorem parted_symbolsFrom (nonempty : ∀ marker ∈ markers, marker ≠ []) (skip : Nat)
    (text : List α) : Parted markers (symbolsFrom markers skip text) := by
  induction text generalizing skip with
  | nil =>
      rw [symbolsFrom]
      trivial
  | cons char text induction =>
      cases skip with
      | succ skip =>
          rw [symbolsFrom]
          exact induction skip
      | zero =>
          rw [symbolsFrom]
          cases found : markers.find? fun marker => decide (marker <+: char :: text) with
          | none =>
              refine ⟨?_, induction 0⟩
              intro marker member
              rw [render_symbolsFrom nonempty, List.drop_zero]
              simpa using List.find?_eq_none.mp found marker member
          | some marker => exact ⟨List.mem_of_find?_eq_some found, induction _⟩

theorem parted_symbolsOf (nonempty : ∀ marker ∈ markers, marker ≠ []) (text : List α) :
    Parted markers (symbolsOf markers text) := parted_symbolsFrom nonempty 0 text

/-- The text does not end within a marker. -/
def EndsWhole (markers : List (List α)) (text : List α) : Prop :=
  ∀ marker ∈ markers, ∀ part, part ≠ [] → part <+: marker → part ≠ marker → ¬part <:+ text

instance (markers : List (List α)) (text : List α) : Decidable (EndsWhole markers text) :=
  decidable_of_iff (∀ marker ∈ markers, ∀ part ∈ marker.inits, part ≠ [] → part ≠ marker →
      ¬part <:+ text)
    ⟨fun each marker member part some begins proper =>
        each marker member part ((List.mem_inits _ _).mpr begins) some proper,
      fun whole marker member part inside some proper =>
        whole marker member part some ((List.mem_inits _ _).mp inside) proper⟩

theorem eq_nil_of_held {held text : List α} (whole : EndsWhole markers text)
    (last : held <:+ text) (missing : firstMatch held markers = none)
    (nonempty : ∀ marker ∈ markers, marker ≠ [])
    (rests : ¬0 < held.length - longestPartial markers held) : held = [] := by
  by_contra some
  have positive := List.length_pos_iff.mpr some
  have short : ∀ marker ∈ markers, partialLength held marker ≤ held.length - 1 := by
    intro marker member
    have bound := partialLength_le held marker
    by_contra long
    have goesOn := drop_partialLength_prefix held marker
    have all : held.length - partialLength held marker = 0 := by omega
    rw [all, List.drop_zero] at goesOn
    apply whole marker member held some goesOn ?_ last
    intro same
    apply (firstMatch_eq_none nonempty).mp missing marker member 0
    rw [same]
    exact List.prefix_rfl
  have bound := longestPartial_le short
  omega

end Symbols

/-! ## Readers -/

/-- What delivered text and markers do to what a machine shows, and what they log. -/
structure Reader (ν ω α : Type) where
  emit : ν → List α → ν × List ω
  enter : ν → List α → ν × List ω

namespace Reader

variable {ν ω α : Type} (reader : Reader ν ω α)

def step (view : ν) : Symbol α → ν × List ω
  | .char char => reader.emit view [char]
  | .tag marker => reader.enter view marker

def read (view : ν) : List (Symbol α) → ν × List ω
  | [] => (view, [])
  | symbol :: symbols =>
      ((read (reader.step view symbol).1 symbols).1,
        (reader.step view symbol).2 ++ (read (reader.step view symbol).1 symbols).2)

/-- The place where text is cut does not show. -/
structure Smooth (joining : Joining ω) : Prop where
  emit_nil : ∀ view, reader.emit view [] = (view, [])
  emit_cons : ∀ view char text,
    (reader.emit view (char :: text)).1 = (reader.emit (reader.emit view [char]).1 text).1
  emit_log : ∀ view char text, joining.merge (reader.emit view (char :: text)).2 =
    joining.merge ((reader.emit view [char]).2 ++
      (reader.emit (reader.emit view [char]).1 text).2)

variable {reader} {joining : Joining ω}

theorem read_append (view : ν) (first second : List (Symbol α)) :
    reader.read view (first ++ second) =
      ((reader.read (reader.read view first).1 second).1,
        (reader.read view first).2 ++ (reader.read (reader.read view first).1 second).2) := by
  induction first generalizing view with
  | nil => rfl
  | cons symbol first induction => simp [read, induction]

theorem Smooth.read_chars (smooth : reader.Smooth joining) (view : ν) (text : List α) :
    (reader.emit view text).1 = (reader.read view (text.map .char)).1 ∧
      joining.merge (reader.emit view text).2 =
        joining.merge (reader.read view (text.map .char)).2 := by
  induction text generalizing view with
  | nil =>
      rw [smooth.emit_nil]
      exact ⟨rfl, rfl⟩
  | cons char text induction =>
      rcases induction (reader.emit view [char]).1 with ⟨state, log⟩
      constructor
      · rw [smooth.emit_cons, state]
        rfl
      · rw [smooth.emit_log]
        exact joining.merge_append_congr rfl log

end Reader

/-! ## Machines -/

/-- A machine that drains text with markers; it holds back what a marker may go on from. -/
structure Tagged {ε σ ω α ν : Type} [DecidableEq α] (machine : Draining ε σ ω α)
    (markers : List (List α)) (reader : Reader ν ω α) (good : σ → Prop) (buffer : σ → List α)
    (view : σ → ν) : Prop where
  push : ∀ state more, good state → good (machine.push state more) ∧
    buffer (machine.push state more) = buffer state ++ more ∧
      view (machine.push state more) = view state
  emits : ∀ state before after, good state → before ≠ [] → buffer state = before ++ after →
    ((∃ marker, firstMatch (buffer state) markers = some (before.length, marker)) ∨
      (firstMatch (buffer state) markers = none ∧
        before.length = (buffer state).length - longestPartial markers (buffer state))) →
    ∃ next, machine.turn state = .ok ⟨true, next, (reader.emit (view state) before).2⟩ ∧
      good next ∧ buffer next = after ∧ view next = (reader.emit (view state) before).1
  enters : ∀ state marker, good state → firstMatch (buffer state) markers = some (0, marker) →
    ∃ next, machine.turn state = .ok ⟨true, next, (reader.enter (view state) marker).2⟩ ∧
      good next ∧ buffer next = (buffer state).drop marker.length ∧
        view next = (reader.enter (view state) marker).1
  rests : ∀ state, good state → firstMatch (buffer state) markers = none →
    ¬0 < (buffer state).length - longestPartial markers (buffer state) →
      machine.turn state = .ok ⟨false, state, []⟩

namespace Tagged

variable {ε σ ω α ν : Type} [DecidableEq α] {machine : Draining ε σ ω α}
  {markers : List (List α)} {reader : Reader ν ω α} {good : σ → Prop} {buffer : σ → List α}
  {view : σ → ν} {joining : Joining ω}

variable (markers reader buffer view joining) in
/-- Between the states the symbols of the input were read, but for those of the buffer. -/
structure Reads (state : σ) (input : List α) (log : List ω) (next : σ)
    (read : List (Symbol α)) : Prop where
  symbols : ∀ more, symbolsOf markers (buffer state ++ (input ++ more)) =
    read ++ symbolsOf markers (buffer next ++ more)
  shown : view next = (reader.read (view state) read).1
  logged : joining.merge log = joining.merge (reader.read (view state) read).2
  last : buffer next <:+ buffer state ++ input

theorem Reads.trans {state middle next : σ} {input input' : List α} {log log' : List ω}
    {read read' : List (Symbol α)}
    (first : Reads markers reader buffer view joining state input log middle read)
    (second : Reads markers reader buffer view joining middle input' log' next read') :
    Reads markers reader buffer view joining state (input ++ input') (log ++ log') next
      (read ++ read') where
  symbols more := by
    rw [List.append_assoc input, first.symbols, second.symbols, List.append_assoc]
  shown := by rw [Reader.read_append, second.shown, first.shown]
  logged := by
    rw [Reader.read_append]
    apply joining.merge_append_congr first.logged
    rw [second.logged, first.shown]
  last := by
    rcases first.last with ⟨front, same⟩
    rcases second.last with ⟨front', same'⟩
    refine ⟨front ++ front', ?_⟩
    rw [List.append_assoc, same', ← List.append_assoc, same, List.append_assoc]

structure Rested (markers : List (List α)) (held : List α) : Prop where
  missing : firstMatch held markers = none
  rests : ¬0 < held.length - longestPartial markers held

theorem rested_nil (nonempty : ∀ marker ∈ markers, marker ≠ []) : Rested markers [] where
  missing := by
    rw [firstMatch_eq_none nonempty]
    intro marker member position occurs
    have bound := occurs.end_le (nonempty marker member)
    have positive := List.length_pos_iff.mpr (nonempty marker member)
    rw [List.length_nil] at bound
    omega
  rests := by
    rw [List.length_nil]
    omega

/-- Delivered text was read. -/
theorem reads_emitted (smooth : reader.Smooth joining) {state next : σ} {before after : List α}
    (split : buffer state = before ++ after)
    (plain : ∀ more, PlainFront markers before (after ++ more)) (rest : buffer next = after)
    (shows : view next = (reader.emit (view state) before).1) :
    Reads markers reader buffer view joining state [] (reader.emit (view state) before).2 next
      (before.map .char) where
  symbols more := by
    rw [split, rest, List.nil_append, List.append_assoc, symbolsOf_append (plain more)]
  shown := by rw [shows, (smooth.read_chars _ _).1]
  logged := (smooth.read_chars _ _).2
  last := by
    rw [split, rest, List.append_nil]
    exact List.suffix_append before after

theorem reads_entered (endFree : EndFree markers) {state next : σ} {marker : List α}
    (found : firstMatch (buffer state) markers = some (0, marker))
    (rest : buffer next = (buffer state).drop marker.length)
    (shows : view next = (reader.enter (view state) marker).1) :
    Reads markers reader buffer view joining state [] (reader.enter (view state) marker).2 next
      [.tag marker] := by
  have firstAt := firstAt_of_firstMatch found
  have begins : marker <+: buffer state := firstAt.occurs
  rcases begins with ⟨after, whole⟩
  have behind : buffer next = after := by rw [rest, ← whole, List.drop_left]
  constructor
  · intro more
    rw [behind, ← whole, List.nil_append, List.append_assoc,
      symbolsOf_tag endFree firstAt.member]
    rfl
  · exact shows
  · simp [Reader.read, Reader.step]
  · rw [behind, ← whole, List.append_nil]
    exact List.suffix_append marker after

theorem reads_nothing (state : σ) :
    Reads markers reader buffer view joining state [] [] state [] where
  symbols more := by simp
  shown := rfl
  logged := rfl
  last := by simp

theorem plainFront_of_some (endFree : EndFree markers) {source : List α} {position : Nat}
    {marker : List α} (found : firstMatch source markers = some (position, marker))
    (more : List α) :
    PlainFront markers (source.take position) (source.drop position ++ more) := by
  intro other member start inside begins
  have whole : source.take position ++ (source.drop position ++ more) = source ++ more := by
    rw [← List.append_assoc, List.take_append_drop]
  rw [whole] at begins
  have firstAt := firstAt_of_firstMatch (firstMatch_append_of_some endFree found more)
  have bound := firstAt.first other member start begins
  have short := List.length_take_le position source
  omega

theorem plainFront_of_none (endFree : EndFree markers) {source : List α}
    (missing : firstMatch source markers = none) (more : List α) :
    PlainFront markers (source.take (source.length - longestPartial markers source))
      (source.drop (source.length - longestPartial markers source) ++ more) :=
  fun marker member position inside =>
    ((clear_of_no_match endFree.nonempty missing).more more marker member position inside).1

variable (tagged : Tagged machine markers reader good buffer view)

include tagged

/-- What a turn does: it reads symbols, or it rests. -/
theorem turn_reads (smooth : reader.Smooth joining) (endFree : EndFree markers) {state : σ}
    (isGood : good state) :
    (∃ next log read, machine.turn state = .ok ⟨true, next, log⟩ ∧ good next ∧
      Reads markers reader buffer view joining state [] log next read) ∨
    (machine.turn state = .ok ⟨false, state, []⟩ ∧ Rested markers (buffer state)) := by
  cases found : firstMatch (buffer state) markers with
  | some best =>
      rcases best with ⟨position, marker⟩
      left
      by_cases here : position = 0
      · rw [here] at found
        rcases tagged.enters state marker isGood found with ⟨next, turned, goodThen, rest, shows⟩
        exact ⟨next, _, _, turned, goodThen, reads_entered endFree found rest shows⟩
      · have firstAt := firstAt_of_firstMatch found
        have bound := firstAt.occurs.end_le (endFree.nonempty marker firstAt.member)
        have length : ((buffer state).take position).length = position :=
          List.length_take_of_le (by omega)
        have nonempty : (buffer state).take position ≠ [] := by
          intro empty
          rw [empty] at length
          exact here length.symm
        rcases tagged.emits state _ _ isGood nonempty (List.take_append_drop position _).symm
          (.inl ⟨marker, length.symm ▸ found⟩) with ⟨next, turned, goodThen, rest, shows⟩
        exact ⟨next, _, _, turned, goodThen, reads_emitted smooth
          (List.take_append_drop position _).symm (plainFront_of_some endFree found) rest shows⟩
  | none =>
      by_cases positive : 0 < (buffer state).length - longestPartial markers (buffer state)
      · left
        have length : ((buffer state).take
            ((buffer state).length - longestPartial markers (buffer state))).length =
              (buffer state).length - longestPartial markers (buffer state) :=
          List.length_take_of_le (Nat.sub_le _ _)
        have nonempty := List.length_pos_iff.mp (length.symm ▸ positive)
        rcases tagged.emits state _ _ isGood nonempty (List.take_append_drop _ _).symm
          (.inr ⟨found, length⟩) with ⟨next, turned, goodThen, rest, shows⟩
        exact ⟨next, _, _, turned, goodThen, reads_emitted smooth
          (List.take_append_drop _ _).symm (plainFront_of_none endFree found) rest shows⟩
      · exact .inr ⟨tagged.rests state isGood found positive, found, positive⟩

theorem drain_reads (smooth : reader.Smooth joining) (endFree : EndFree markers) {state : σ}
    (isGood : good state) :
    ∃ next log read, machine.drain state = .ok ⟨(), next, log⟩ ∧ good next ∧
      Reads markers reader buffer view joining state [] log next read ∧
        Rested markers (buffer next) := by
  induction size : machine.measure state using Nat.strongRecOn generalizing state with
  | ind size induction =>
      rcases tagged.turn_reads smooth endFree isGood with
        ⟨middle, log, read, turned, goodThen, reads⟩ | ⟨turned, rested⟩
      · have less := machine.progresses state _ turned rfl
        rcases induction _ (size ▸ less) goodThen rfl with
          ⟨next, log', read', drained, goodLast, reads', rested⟩
        refine ⟨next, log ++ log', read ++ read', ?_, goodLast, reads.trans reads', rested⟩
        rw [Draining.drain_of_progress turned rfl]
        dsimp only
        rw [drained]
        rfl
      · exact ⟨state, [], [], Draining.drain_of_rest turned rfl, isGood, reads_nothing state,
          rested⟩

theorem feed_reads (smooth : reader.Smooth joining) (endFree : EndFree markers) (piece : List α)
    {state : σ} (isGood : good state) :
    ∃ next log read, machine.feed piece state = .ok ⟨(), next, log⟩ ∧ good next ∧
      Reads markers reader buffer view joining state piece log next read ∧
        Rested markers (buffer next) := by
  rcases tagged.push state piece isGood with ⟨goodPushed, pushed, shows⟩
  rcases tagged.drain_reads smooth endFree goodPushed with
    ⟨next, log, read, drained, goodThen, reads, rested⟩
  refine ⟨next, log, read, drained, goodThen, ?_, rested⟩
  constructor
  · intro more
    rw [← List.append_assoc, ← pushed]
    exact reads.symbols more
  · rw [reads.shown, shows]
  · rw [reads.logged, shows]
  · have last := reads.last
    rw [pushed, List.append_nil] at last
    exact last

theorem feedAll_reads (smooth : reader.Smooth joining) (endFree : EndFree markers)
    (pieces : List (List α)) {state : σ} (isGood : good state)
    (rested : Rested markers (buffer state)) :
    ∃ next log read, machine.feedAll pieces state = .ok ⟨(), next, log⟩ ∧ good next ∧
      Reads markers reader buffer view joining state pieces.flatten log next read ∧
        Rested markers (buffer next) := by
  induction pieces generalizing state with
  | nil => exact ⟨state, [], [], rfl, isGood, reads_nothing state, rested⟩
  | cons piece pieces induction =>
      rcases tagged.feed_reads smooth endFree piece isGood with
        ⟨middle, log, read, fed, goodThen, reads, restedThen⟩
      rcases induction goodThen restedThen with
        ⟨next, log', read', fedAll, goodLast, reads', restedLast⟩
      refine ⟨next, log ++ log', read ++ read', ?_, goodLast, ?_, restedLast⟩
      · rw [Draining.feedAll, Emitting.bind_run_ok fed]
        dsimp only
        rw [fedAll]
        rfl
      · rw [List.flatten_cons]
        exact reads.trans reads'

/-- A text that does not end within a marker is read whole. -/
theorem feedAll_whole (smooth : reader.Smooth joining) (endFree : EndFree markers)
    (pieces : List (List α)) {state : σ} (isGood : good state) (fresh : buffer state = [])
    (whole : EndsWhole markers pieces.flatten) :
    ∃ next log, machine.feedAll pieces state = .ok ⟨(), next, log⟩ ∧ good next ∧
      buffer next = [] ∧
      view next = (reader.read (view state) (symbolsOf markers pieces.flatten)).1 ∧
      joining.merge log =
        joining.merge (reader.read (view state) (symbolsOf markers pieces.flatten)).2 := by
  rcases tagged.feedAll_reads smooth endFree pieces isGood
    (fresh ▸ rested_nil endFree.nonempty) with ⟨next, log, read, fed, goodThen, reads, rested⟩
  have last := reads.last
  rw [fresh, List.nil_append] at last
  have nothing := eq_nil_of_held whole last rested.missing endFree.nonempty rested.rests
  have all := reads.symbols []
  rw [fresh, nothing, List.append_nil, List.append_nil, symbolsOf_nil, List.append_nil,
    List.nil_append] at all
  exact ⟨next, log, fed, goodThen, nothing, all ▸ reads.shown, all ▸ reads.logged⟩

end Tagged

end ExQServe.Emission
