import EventLink.Proofs.Json.Tokens
/-!
Reading and the grammar.

Reading a text gives a value exactly if the text is JSON for that value and is not nested too
deeply.  In one direction a place of the grammar remembers all tokens taken so far; in the other the
tokens of a value take the reader from before the value to after it, whatever it is inside of.
-/
namespace EventLink.Json

/-- The tokens of a list up to its next item, after the items read so far, the latest first. -/
def listOpening : List Value → List Token
  | [] => [.listStart]
  | v :: older => listOpening older ++ (v.tokens ++ [.comma])

/-- The tokens of an object up to its next key, after the members read so far, the latest first. -/
def objectOpening : List Member → List Token
  | [] => [.objectStart]
  | (key, v) :: older => objectOpening older ++ (.string key :: .colon :: (v.tokens ++ [.comma]))

theorem listOpening_append (items : List Value) (v : Value) (rest : List Value) :
    listOpening items ++ (v.tokens ++ Value.itemTokens rest) =
      (Value.array (items.reverse ++ v :: rest)).tokens := by
  induction items generalizing v rest with
  | nil => rw [listOpening, List.reverse_nil, List.nil_append, Value.tokens, List.singleton_append]
  | cons w older ih =>
    rw [listOpening, List.append_assoc, List.append_assoc, List.singleton_append, List.reverse_cons,
      List.append_assoc, List.singleton_append, ← ih, Value.itemTokens]

theorem objectOpening_append (members : List Member) (key : String) (v : Value)
    (rest : List Member) :
    objectOpening members ++ (.string key :: .colon :: (v.tokens ++ Value.memberTokens rest)) =
      (Value.object (members.reverse ++ (key, v) :: rest)).tokens := by
  induction members generalizing key v rest with
  | nil =>
    rw [objectOpening, List.reverse_nil, List.nil_append, Value.tokens, List.singleton_append]
  | cons m older ih =>
    rw [objectOpening, List.append_assoc, List.cons_append, List.cons_append, List.append_assoc,
      List.singleton_append, List.reverse_cons, List.append_assoc, List.singleton_append, ← ih,
      Value.memberTokens]

/-- The lists and objects around a place, after the tokens that opened them.  The values in them are
not nested too deeply. -/
inductive Around : List Level → List Token → Prop
  | nil : Around [] []
  | list {items : List Value} {around : List Level} {ts : List Token} (outer : Around around ts)
      (room : around.length + 1 < tooManyLevels)
      (fits : ∀ v ∈ items, v.FitsIn (around.length + 1)) :
      Around (.list items :: around) (ts ++ listOpening items)
  | entry {members : List Member} {key : String} {around : List Level} {ts : List Token}
      (outer : Around around ts) (room : around.length + 1 < tooManyLevels)
      (fits : ∀ m ∈ members, m.2.FitsIn (around.length + 1)) :
      Around (.entry members key :: around)
        (ts ++ (objectOpening members ++ [.string key, .colon]))

/-- The tokens that have been taken at a place. -/
inductive Place.After : Place → List Token → Prop
  | value {around : List Level} {ts : List Token} (outer : Around around ts) :
      After (.value around) ts
  | listStart {around : List Level} {ts : List Token} (outer : Around (.list [] :: around) ts) :
      After (.listStart around) ts
  | listItem {items : List Value} {around : List Level} {ts : List Token}
      (outer : Around (.list items :: around) ts) : After (.listItem items around) ts
  | listNext {v : Value} {items : List Value} {around : List Level} {ts : List Token}
      (outer : Around (.list items :: around) ts) (fits : v.FitsIn (around.length + 1)) :
      After (.listNext (v :: items) around) (ts ++ v.tokens)
  | objectStart {around : List Level} {ts : List Token} (outer : Around around ts)
      (room : around.length + 1 < tooManyLevels) :
      After (.objectStart around) (ts ++ [.objectStart])
  | objectKey {members : List Member} {around : List Level} {ts : List Token}
      (outer : Around around ts) (room : around.length + 1 < tooManyLevels)
      (fits : ∀ m ∈ members, m.2.FitsIn (around.length + 1)) :
      After (.objectKey members around) (ts ++ objectOpening members)
  | objectNext {key : String} {v : Value} {members : List Member} {around : List Level}
      {ts : List Token} (outer : Around (.entry members key :: around) ts)
      (fits : v.FitsIn (around.length + 1)) :
      After (.objectNext ((key, v) :: members) around) (ts ++ v.tokens)
  | colon {members : List Member} {key : String} {around : List Level} {ts : List Token}
      (outer : Around around ts) (room : around.length + 1 < tooManyLevels)
      (fits : ∀ m ∈ members, m.2.FitsIn (around.length + 1)) :
      After (.colon members key around) (ts ++ (objectOpening members ++ [.string key]))

/-- What taking a token leads to, after the tokens taken. -/
def Step.After : Step → List Token → Prop
  | .go place, ts => place.After ts
  | .done v, ts => v.tokens = ts ∧ v.FitsIn 0
  | .fail _, _ => True

theorem Around.room {around : List Level} {ts : List Token} (h : Around around ts) :
    around.length < tooManyLevels := by
  cases h with
  | nil => decide
  | list _ room => exact room
  | entry _ room => exact room

/-- A finished value is after its tokens. -/
theorem give_after {v : Value} {around : List Level} {ts : List Token} (outer : Around around ts)
    (fits : v.FitsIn around.length) : (give v around).After (ts ++ v.tokens) := by
  cases outer with
  | nil => exact ⟨rfl, fits⟩
  | list outer room others => exact .listNext (.list outer room others) fits
  | entry outer room others => exact .objectNext (.entry outer room others) fits

theorem startValue_after {around : List Level} {ts : List Token} (outer : Around around ts)
    {lexeme : Lexeme} {t : Token} (holds : lexeme.Holds t) :
    (startValue around lexeme).After (ts ++ [t]) := by
  have plain : around.length + 0 < tooManyLevels := outer.room
  rw [startValue, holds]
  cases t with
  | null | bool | number | string => exact give_after outer plain
  | listStart =>
    dsimp only
    rw [enter]
    split
    · next room => exact .listStart (.list outer room fun _ h => absurd h List.not_mem_nil)
    · exact trivial
  | objectStart =>
    dsimp only
    rw [enter]
    split
    · next room => exact .objectStart outer room
    · exact trivial
  | _ => exact trivial

theorem startKey_after {members : List Member} {around : List Level} {ts : List Token}
    (outer : Around around ts) (room : around.length + 1 < tooManyLevels)
    (fits : ∀ m ∈ members, m.2.FitsIn (around.length + 1)) {lexeme : Lexeme} {t : Token}
    (holds : lexeme.Holds t) :
    (startKey members around lexeme).After (ts ++ objectOpening members ++ [t]) := by
  rw [startKey, holds, List.append_assoc]
  cases t with
  | string key => exact .colon outer room fits
  | _ => exact trivial

/-- Around the next item of a list. -/
theorem Around.next {v : Value} {items : List Value} {around : List Level} {ts : List Token}
    (outer : Around (.list items :: around) ts) (fits : v.FitsIn (around.length + 1)) :
    Around (.list (v :: items) :: around) (ts ++ v.tokens ++ [.comma]) := by
  cases outer with
  | list outer room others =>
    have next := Around.list outer room (List.forall_mem_cons.2 ⟨fits, others⟩)
    simpa only [listOpening, List.append_assoc] using next

/-- At the next key of an object. -/
theorem Around.nextKey {key : String} {v : Value} {members : List Member} {around : List Level}
    {ts : List Token} (outer : Around (.entry members key :: around) ts)
    (fits : v.FitsIn (around.length + 1)) :
    Place.After (.objectKey ((key, v) :: members) around) (ts ++ v.tokens ++ [.comma]) := by
  cases outer with
  | entry outer room others =>
    have all : ∀ m ∈ (key, v) :: members, m.2.FitsIn (around.length + 1) :=
      List.forall_mem_cons.2 ⟨fits, others⟩
    have next := Place.After.objectKey outer room all
    simpa only [objectOpening, List.append_assoc, List.cons_append, List.nil_append] using next

/-- A list is complete with its closing bracket. -/
theorem give_array_after {v : Value} {items : List Value} {around : List Level} {ts : List Token}
    (outer : Around (.list items :: around) ts) (fits : v.FitsIn (around.length + 1)) :
    (give (.array (v :: items).reverse) around).After (ts ++ v.tokens ++ [.listEnd]) := by
  cases outer with
  | list outer room others =>
    have all : ∀ w ∈ v :: items, w.FitsIn (around.length + 1) :=
      List.forall_mem_cons.2 ⟨fits, others⟩
    have given := give_after outer
      (Value.fitsIn_array.2 ⟨room, fun w hw => all w (List.mem_reverse.1 hw)⟩)
    rw [List.reverse_cons] at given ⊢
    rwa [← listOpening_append, Value.itemTokens, ← List.append_assoc, ← List.append_assoc] at given

/-- An object is complete with its closing brace. -/
theorem give_object_after {key : String} {v : Value} {members : List Member}
    {around : List Level} {ts : List Token} (outer : Around (.entry members key :: around) ts)
    (fits : v.FitsIn (around.length + 1)) :
    (give (.object ((key, v) :: members).reverse) around).After
      (ts ++ v.tokens ++ [.objectEnd]) := by
  cases outer with
  | entry outer room others =>
    have all : ∀ m ∈ (key, v) :: members, m.2.FitsIn (around.length + 1) :=
      List.forall_mem_cons.2 ⟨fits, others⟩
    have given := give_after outer
      (Value.fitsIn_object.2 ⟨room, fun m hm => all m (List.mem_reverse.1 hm)⟩)
    rw [List.reverse_cons] at given ⊢
    rw [← objectOpening_append, Value.memberTokens] at given
    simpa only [List.append_assoc, List.cons_append, List.nil_append] using given

/-- Taking a token leads to where it has been taken. -/
theorem step_after {place : Place} {ts : List Token} (after : place.After ts) {lexeme : Lexeme}
    {t : Token} (holds : lexeme.Holds t) : (step lexeme place).After (ts ++ [t]) := by
  cases after with
  | value outer => exact startValue_after outer holds
  | listStart outer =>
    rw [step, holds]
    split
    · next isEnd =>
      cases isEnd
      cases outer with
      | list outer room others =>
        have fits : (Value.array []).FitsIn _ := Value.fitsIn_array.2 ⟨room, others⟩
        rw [List.append_assoc]
        exact give_after outer fits
    · exact startValue_after outer holds
  | listItem outer =>
    rw [step, holds]
    split
    · exact trivial
    · exact startValue_after outer holds
  | listNext outer fits =>
    rw [step, holds]
    split
    · next isEnd =>
      cases isEnd
      exact give_array_after outer fits
    · next isComma =>
      cases isComma
      exact .listItem (outer.next fits)
    · exact trivial
  | objectStart outer room =>
    rw [step, holds]
    split
    · next isEnd =>
      cases isEnd
      have fits : (Value.object []).FitsIn _ :=
        Value.fitsIn_object.2 ⟨room, fun _ h => absurd h List.not_mem_nil⟩
      rw [List.append_assoc]
      exact give_after outer fits
    · exact startKey_after outer room (fun _ h => absurd h List.not_mem_nil) holds
  | objectKey outer room fits =>
    rw [step, holds]
    split
    · exact trivial
    · exact startKey_after outer room fits holds
  | objectNext outer fits =>
    rw [step, holds]
    split
    · next isEnd =>
      cases isEnd
      exact give_object_after outer fits
    · next isComma =>
      cases isComma
      exact outer.nextKey fits
    · exact trivial
  | @colon members key around _ outer room fits =>
    rw [step, holds]
    split
    · next isColon =>
      cases isColon
      have next : Step.After (.go (.value (.entry members key :: around))) _ :=
        Place.After.value (.entry outer room fits)
      simpa only [List.append_assoc, List.cons_append, List.nil_append] using next
    · exact trivial

/-- Only tokens can be taken. -/
theorem step_fault {lexeme : Lexeme} {fault : Fault} (h : lexeme.content = .error fault)
    (place : Place) : ∃ other, step lexeme place = .fail other := by
  have key (members : List Member) (around : List Level) :
      ∃ other, startKey members around lexeme = .fail other := by
    rw [startKey, h]
    dsimp only
    split
    · exact ⟨_, rfl⟩
    · exact ⟨_, rfl⟩
  cases place with
  | objectStart around =>
    rw [step, h]
    exact key [] around
  | objectKey members around =>
    rw [step, h]
    exact key members around
  | _ =>
    simp only [step, startValue, h]
    exact ⟨_, rfl⟩

/-- What is read from a place makes up the value together with what has been taken before. -/
theorem tokens_of_run {place : Place} {ts : List Token} {lexemes rest : List Lexeme} {v : Value}
    (after : place.After ts) (h : run place lexemes = .ok (v, rest)) :
    ∃ taken us, lexemes = taken ++ rest ∧ Hold taken us ∧ v.tokens = ts ++ us ∧ v.FitsIn 0 := by
  -- By induction on what is still to be read; the place remembers what has been taken.
  induction lexemes generalizing place ts with
  | nil =>
    rw [run] at h
    cases h
  | cons lexeme others ih =>
    rw [run] at h
    rcases hcontent : lexeme.content with fault | t
    · obtain ⟨other, hfail⟩ := step_fault hcontent place
      rw [hfail] at h
      cases h
    · have next := step_after after hcontent
      rcases hstep : step lexeme place with place' | w | fault
      · rw [hstep] at h next
        obtain ⟨taken, us, rfl, hold, htokens, fits⟩ := ih next h
        refine ⟨lexeme :: taken, t :: us, rfl, .cons hcontent hold, ?_, fits⟩
        rw [htokens, List.append_assoc, List.singleton_append]
      · rw [hstep] at h next
        cases h
        exact ⟨[lexeme], [t], rfl, .cons hcontent .nil, next.1, next.2⟩
      · rw [hstep] at h
        cases h

/-- Reading goes on with the remaining tokens after one has been taken. -/
def Step.resume : Step → List Lexeme → Except Fault (Value × List Lexeme)
  | .go place, rest => run place rest
  | .done v, rest => .ok (v, rest)
  | .fail fault, _ => .error fault

theorem run_cons (place : Place) (lexeme : Lexeme) (rest : List Lexeme) :
    run place (lexeme :: rest) = (step lexeme place).resume rest := by
  rw [run]
  rcases step lexeme place with next | v | fault <;> rfl

theorem exists_of_hold {lexemes : List Lexeme} {t : Token} {ts : List Token}
    (h : Hold lexemes (t :: ts)) :
    ∃ lexeme rest, lexemes = lexeme :: rest ∧ lexeme.Holds t ∧ Hold rest ts := by
  cases h with
  | cons first others => exact ⟨_, _, rfl, first, others⟩

/-- The tokens of a value take the reader past it, whatever it is inside of. -/
def Value.Passes (v : Value) : Prop :=
  ∀ around lexemes ts, v.FitsIn around.length → Hold lexemes (v.tokens ++ ts) →
    ∃ rest, Hold rest ts ∧ run (.value around) lexemes = (give v around).resume rest

theorem Value.exists_head (v : Value) : ∃ t ts, v.tokens = t :: ts ∧ t ≠ .listEnd := by
  cases v with
  | array items => cases items <;> exact ⟨_, _, rfl, Token.noConfusion⟩
  | object members => cases members <;> exact ⟨_, _, rfl, Token.noConfusion⟩
  | _ => exact ⟨_, _, rfl, Token.noConfusion⟩

theorem Value.Passes.of_token {v : Value} {t : Token} (single : v.tokens = [t])
    (taken : ∀ around lexeme, lexeme.Holds t → startValue around lexeme = give v around) :
    v.Passes := by
  intro around lexemes ts _ hold
  rw [single, List.singleton_append] at hold
  obtain ⟨lexeme, rest, rfl, holds, others⟩ := exists_of_hold hold
  refine ⟨rest, others, ?_⟩
  rw [run_cons, step, taken around lexeme holds]

/-- Where a list may end, a value is read as it is in the list. -/
theorem run_item {v : Value} {lexemes : List Lexeme} {ts : List Token}
    (hold : Hold lexemes (v.tokens ++ ts)) (items : List Value) (around : List Level) :
    run (.listStart around) lexemes = run (.value (.list [] :: around)) lexemes ∧
      run (.listItem items around) lexemes = run (.value (.list items :: around)) lexemes := by
  obtain ⟨t, us, htokens, notEnd⟩ := v.exists_head
  rw [htokens, List.cons_append] at hold
  obtain ⟨lexeme, rest, rfl, holds, -⟩ := exists_of_hold hold
  have same : step lexeme (.listStart around) = step lexeme (.value (.list [] :: around)) ∧
      step lexeme (.listItem items around) = step lexeme (.value (.list items :: around)) := by
    have content : lexeme.content = .ok t := holds
    cases t with
    | listEnd => exact absurd rfl notEnd
    | _ => simp only [step, content, and_self]
  exact ⟨by rw [run_cons, run_cons, same.1], by rw [run_cons, run_cons, same.2]⟩

theorem run_items {items : List Value} (passes : ∀ v ∈ items, v.Passes) {around : List Level}
    (fits : ∀ v ∈ items, v.FitsIn (around.length + 1)) (read : List Value)
    {lexemes : List Lexeme} {ts : List Token}
    (hold : Hold lexemes (Value.itemTokens items ++ ts)) :
    ∃ rest, Hold rest ts ∧ run (.listNext read around) lexemes =
      (give (.array (read.reverse ++ items)) around).resume rest := by
  -- The items that have been read grow as those to come shrink; together they stay the list.
  induction items generalizing read lexemes with
  | nil =>
    obtain ⟨lexeme, rest, rfl, holds, others⟩ := exists_of_hold hold
    refine ⟨rest, others, ?_⟩
    rw [run_cons, step, holds, List.append_nil]
  | cons v items ih =>
    rw [Value.itemTokens, List.cons_append, List.append_assoc] at hold
    obtain ⟨lexeme, others, rfl, holds, hold⟩ := exists_of_hold hold
    obtain ⟨hv, hitems⟩ := List.forall_mem_cons.1 passes
    obtain ⟨fitsHead, fitsTail⟩ := List.forall_mem_cons.1 fits
    obtain ⟨after, hold', hrun⟩ := hv (.list read :: around) others _ fitsHead hold
    obtain ⟨rest, hrest, hlast⟩ := ih hitems fitsTail (v :: read) hold'
    refine ⟨rest, hrest, ?_⟩
    calc run (.listNext read around) (lexeme :: others)
        = run (.listItem read around) others := by
          rw [run_cons, step, holds]
          rfl
      _ = run (.listNext (v :: read) around) after := by
          rw [(run_item hold read around).2, hrun]
          rfl
      _ = (give (.array (read.reverse ++ v :: items)) around).resume rest := by
          rw [hlast, List.reverse_cons, List.append_assoc, List.singleton_append]

theorem Value.passes_array {items : List Value} (passes : ∀ v ∈ items, v.Passes) :
    (array items).Passes := by
  intro around lexemes ts fits hold
  obtain ⟨room, fits⟩ := fitsIn_array.1 fits
  have enters (lexeme : Lexeme) (rest : List Lexeme) (holds : lexeme.Holds .listStart) :
      run (.value around) (lexeme :: rest) = run (.listStart around) rest := by
    rw [run_cons, step, startValue, holds]
    dsimp only
    rw [enter, if_pos room]
    rfl
  cases items with
  | nil =>
    obtain ⟨first, others, rfl, isStart, hold⟩ := exists_of_hold hold
    obtain ⟨second, rest, rfl, isEnd, hold⟩ := exists_of_hold hold
    refine ⟨rest, hold, ?_⟩
    rw [enters first _ isStart, run_cons, step, isEnd]
  | cons v items =>
    rw [tokens, List.cons_append, List.append_assoc] at hold
    obtain ⟨first, others, rfl, isStart, hold⟩ := exists_of_hold hold
    obtain ⟨hv, hitems⟩ := List.forall_mem_cons.1 passes
    obtain ⟨fitsHead, fitsTail⟩ := List.forall_mem_cons.1 fits
    obtain ⟨after, hold', hrun⟩ := hv (.list [] :: around) others _ fitsHead hold
    obtain ⟨rest, hrest, hlast⟩ := run_items hitems fitsTail [v] hold'
    refine ⟨rest, hrest, ?_⟩
    rw [enters first _ isStart, (run_item hold [] around).1, hrun]
    exact hlast

theorem run_members {members : List Member} (passes : ∀ m ∈ members, m.2.Passes)
    {around : List Level} (fits : ∀ m ∈ members, m.2.FitsIn (around.length + 1))
    (read : List Member) {lexemes : List Lexeme} {ts : List Token}
    (hold : Hold lexemes (Value.memberTokens members ++ ts)) :
    ∃ rest, Hold rest ts ∧ run (.objectNext read around) lexemes =
      (give (.object (read.reverse ++ members)) around).resume rest := by
  induction members generalizing read lexemes with
  | nil =>
    obtain ⟨lexeme, rest, rfl, holds, others⟩ := exists_of_hold hold
    refine ⟨rest, others, ?_⟩
    rw [run_cons, step, holds, List.append_nil]
  | cons m members ih =>
    obtain ⟨key, v⟩ := m
    rw [Value.memberTokens, List.cons_append, List.cons_append, List.cons_append,
      List.append_assoc] at hold
    obtain ⟨first, others, rfl, isComma, hold⟩ := exists_of_hold hold
    obtain ⟨second, others, rfl, isKey, hold⟩ := exists_of_hold hold
    obtain ⟨third, others, rfl, isColon, hold⟩ := exists_of_hold hold
    obtain ⟨hv, hmembers⟩ := List.forall_mem_cons.1 passes
    obtain ⟨fitsHead, fitsTail⟩ := List.forall_mem_cons.1 fits
    obtain ⟨after, hold', hrun⟩ := hv (.entry read key :: around) others _ fitsHead hold
    obtain ⟨rest, hrest, hlast⟩ := ih hmembers fitsTail ((key, v) :: read) hold'
    refine ⟨rest, hrest, ?_⟩
    calc run (.objectNext read around) (first :: second :: third :: others)
        = run (.objectKey read around) (second :: third :: others) := by
          rw [run_cons, step, isComma]
          rfl
      _ = run (.colon read key around) (third :: others) := by
          rw [run_cons, step, startKey, isKey]
          rfl
      _ = run (.value (.entry read key :: around)) others := by
          rw [run_cons, step, isColon]
          rfl
      _ = run (.objectNext ((key, v) :: read) around) after := hrun
      _ = (give (.object (read.reverse ++ (key, v) :: members)) around).resume rest := by
          rw [hlast, List.reverse_cons, List.append_assoc, List.singleton_append]

theorem Value.passes_object {members : List Member} (passes : ∀ m ∈ members, m.2.Passes) :
    (object members).Passes := by
  intro around lexemes ts fits hold
  obtain ⟨room, fits⟩ := fitsIn_object.1 fits
  have enters (lexeme : Lexeme) (rest : List Lexeme) (holds : lexeme.Holds .objectStart) :
      run (.value around) (lexeme :: rest) = run (.objectStart around) rest := by
    rw [run_cons, step, startValue, holds]
    dsimp only
    rw [enter, if_pos room]
    rfl
  cases members with
  | nil =>
    obtain ⟨first, others, rfl, isStart, hold⟩ := exists_of_hold hold
    obtain ⟨second, rest, rfl, isEnd, hold⟩ := exists_of_hold hold
    refine ⟨rest, hold, ?_⟩
    rw [enters first _ isStart, run_cons, step, isEnd]
  | cons m members =>
    obtain ⟨key, v⟩ := m
    rw [tokens, List.cons_append, List.cons_append, List.cons_append, List.append_assoc] at hold
    obtain ⟨first, others, rfl, isStart, hold⟩ := exists_of_hold hold
    obtain ⟨second, others, rfl, isKey, hold⟩ := exists_of_hold hold
    obtain ⟨third, others, rfl, isColon, hold⟩ := exists_of_hold hold
    obtain ⟨hv, hmembers⟩ := List.forall_mem_cons.1 passes
    obtain ⟨fitsHead, fitsTail⟩ := List.forall_mem_cons.1 fits
    obtain ⟨after, hold', hrun⟩ := hv (.entry [] key :: around) others _ fitsHead hold
    obtain ⟨rest, hrest, hlast⟩ := run_members hmembers fitsTail [(key, v)] hold'
    refine ⟨rest, hrest, ?_⟩
    calc run (.value around) (first :: second :: third :: others)
        = run (.objectStart around) (second :: third :: others) := enters first _ isStart
      _ = run (.colon [] key around) (third :: others) := by
          rw [run_cons, step, isKey]
          dsimp only
          rw [startKey, isKey]
          rfl
      _ = run (.value (.entry [] key :: around)) others := by
          rw [run_cons, step, isColon]
          rfl
      _ = run (.objectNext [(key, v)] around) after := hrun
      _ = (give (.object ((key, v) :: members)) around).resume rest := hlast

theorem Value.passes (v : Value) : v.Passes := by
  induction v using Value.induction with
  | null => exact .of_token rfl fun around lexeme holds => by rw [startValue, holds]
  | bool b => exact .of_token rfl fun around lexeme holds => by rw [startValue, holds]
  | number n => exact .of_token rfl fun around lexeme holds => by rw [startValue, holds]
  | string s => exact .of_token rfl fun around lexeme holds => by rw [startValue, holds]
  | array items ih => exact passes_array ih
  | object members ih => exact passes_object ih

theorem apart_cons {t : Token} {ts : List Token} (notNumber : t.isNumber = false)
    (h : ts.IsChain Apart) : (t :: ts).IsChain Apart := by
  refine List.isChain_cons.2 ⟨fun u _ number => ?_, h⟩
  rw [notNumber] at number
  cases number

/-- The tokens of a value keep numbers apart, also from what follows it. -/
def Value.KeepsApart (v : Value) : Prop :=
  ∀ ts : List Token, ts.IsChain Apart → (∀ t ∈ ts.head?, t.isNumber = false) →
    (v.tokens ++ ts).IsChain Apart

theorem itemTokens_apart {items : List Value} (keeps : ∀ v ∈ items, v.KeepsApart)
    {ts : List Token} (h : ts.IsChain Apart) :
    (Value.itemTokens items ++ ts).IsChain Apart ∧
      ∀ t ∈ (Value.itemTokens items ++ ts).head?, t.isNumber = false := by
  induction items with
  | nil => exact ⟨apart_cons rfl h, by rintro t ⟨⟩; rfl⟩
  | cons v items ih =>
    obtain ⟨hv, hitems⟩ := List.forall_mem_cons.1 keeps
    obtain ⟨hchain, hhead⟩ := ih hitems
    rw [Value.itemTokens, List.cons_append, List.append_assoc]
    exact ⟨apart_cons rfl (hv _ hchain hhead), by rintro t ⟨⟩; rfl⟩

theorem memberTokens_apart {members : List Member} (keeps : ∀ m ∈ members, m.2.KeepsApart)
    {ts : List Token} (h : ts.IsChain Apart) :
    (Value.memberTokens members ++ ts).IsChain Apart ∧
      ∀ t ∈ (Value.memberTokens members ++ ts).head?, t.isNumber = false := by
  induction members with
  | nil => exact ⟨apart_cons rfl h, by rintro t ⟨⟩; rfl⟩
  | cons m members ih =>
    obtain ⟨hm, hmembers⟩ := List.forall_mem_cons.1 keeps
    obtain ⟨hchain, hhead⟩ := ih hmembers
    rw [Value.memberTokens, List.cons_append, List.cons_append, List.cons_append,
      List.append_assoc]
    exact ⟨apart_cons rfl (apart_cons rfl (apart_cons rfl (hm _ hchain hhead))),
      by rintro t ⟨⟩; rfl⟩

theorem Value.keepsApart (v : Value) : v.KeepsApart := by
  induction v using Value.induction with
  | null => exact fun ts h _ => apart_cons rfl h
  | bool b => exact fun ts h _ => apart_cons rfl h
  | string s => exact fun ts h _ => apart_cons rfl h
  | number n => exact fun ts h head => List.isChain_cons.2 ⟨fun u hu _ => head u hu, h⟩
  | array items ih =>
    intro ts h _
    cases items with
    | nil => exact apart_cons rfl (apart_cons rfl h)
    | cons v items =>
      obtain ⟨hv, hitems⟩ := List.forall_mem_cons.1 ih
      obtain ⟨hchain, hhead⟩ := itemTokens_apart hitems h
      rw [tokens, List.cons_append, List.append_assoc]
      exact apart_cons rfl (hv _ hchain hhead)
  | object members ih =>
    intro ts h _
    cases members with
    | nil => exact apart_cons rfl (apart_cons rfl h)
    | cons m members =>
      obtain ⟨hm, hmembers⟩ := List.forall_mem_cons.1 ih
      obtain ⟨hchain, hhead⟩ := memberTokens_apart hmembers h
      rw [tokens, List.cons_append, List.cons_append, List.cons_append, List.append_assoc]
      exact apart_cons rfl (apart_cons rfl (apart_cons rfl (hm _ hchain hhead)))

theorem Value.tokens_apart (v : Value) : v.tokens.IsChain Apart := by
  have chain := v.keepsApart [] .nil (by rintro t ⟨⟩)
  rwa [List.append_nil] at chain

theorem readFront_eq_ok_iff {text : String} {v : Value} :
    readFront text = .ok (v, none) ↔ run (.value []) (lexemes text.toList) = .ok (v, []) := by
  rw [readFront]
  rcases run (.value []) (lexemes text.toList) with fault | ⟨w, _ | ⟨next, rest⟩⟩ <;> simp

theorem read_eq_ok_iff_readFront {text : String} {v : Value} :
    read text = .ok v ↔ readFront text = .ok (v, none) := by
  rw [read]
  rcases readFront text with error | ⟨w, _ | error⟩ <;> simp

/-- A text that is JSON for a value is read as that value, and nothing follows. -/
theorem Represents.readFront {text : String} {v : Value} (h : Represents text v) :
    readFront text = .ok (v, none) := by
  have hold : Hold (lexemes text.toList) (v.tokens ++ []) := by
    rw [List.append_nil]
    exact h.spelled.hold v.tokens_apart
  obtain ⟨rest, hrest, hrun⟩ := v.passes [] _ _ h.nested hold
  obtain rfl := List.forall₂_nil_right_iff.1 hrest
  exact readFront_eq_ok_iff.2 hrun

/-- Reading accepts exactly the texts that are JSON for a value, and gives that value. -/
theorem read_eq_ok_iff {text : String} {v : Value} :
    read text = .ok v ↔ Represents text v := by
  constructor
  · intro h
    have hrun := readFront_eq_ok_iff.1 (read_eq_ok_iff_readFront.1 h)
    obtain ⟨taken, us, htaken, hold, htokens, fits⟩ := tokens_of_run (.value .nil) hrun
    refine ⟨?_, fits⟩
    rw [List.append_nil] at htaken
    rw [List.nil_append] at htokens
    rw [htokens]
    exact spelled_of_hold (htaken ▸ hold)
  · intro h
    exact read_eq_ok_iff_readFront.2 h.readFront

/-- A text is JSON for a value if it is cut into the tokens of the value, which can be computed. -/
theorem represents_of_contents {text : String} {v : Value}
    (contents : (lexemes text.toList).map Lexeme.content = v.tokens.map .ok)
    (nested : v.FitsIn 0) : Represents text v where
  spelled := by
    rw [← List.forall₂_eq_eq_eq, List.forall₂_map_left_iff, List.forall₂_map_right_iff] at contents
    exact spelled_of_hold contents
  nested := nested

end EventLink.Json
