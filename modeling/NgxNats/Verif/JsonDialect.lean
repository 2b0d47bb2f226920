import NgxNats.Verif.JsonAtoms

/-!
# The parser accepts exactly its dialect

Each production of the grammar is read by the function that parses it, and what a function
returns has a derivation. Both directions are inductions on the bound of nested calls and loop
rounds, of which every call uses one; twice the length of the text is enough of it. Since the
parser is a function, no text has two derivations.
-/
namespace NgxNats.Json

open Dialect

variable {env : JsonEnv} {b : List UInt8} {ctx : JsonCtx}

/-- The bytes that end a primitive value. -/
theorem isDelimiter_iff {c : UInt8} : isDelimiter c = true ↔ c ∈ delimiters := by
  unfold isDelimiter delimiters
  simp only [Bool.or_eq_true, isSpace_iff, decide_eq_true_eq, List.mem_append, List.mem_cons,
    List.not_mem_nil, or_false, or_assoc]

/-- A byte that does not end a primitive value. -/
theorem isDelimiter_false {c : UInt8} : (!isDelimiter c) = true ↔ c ∉ delimiters := by
  rw [← isDelimiter_iff, Bool.not_eq_true', Bool.not_eq_true]

/-- A primitive value has a first byte, which is no quote. -/
theorem Atom.head {strtod : List UInt8 → Nat × Nat} {token : List UInt8} {value : JsonValue}
    (derives : Atom strtod token value) : ∃ c rest, token = c :: rest ∧ ¬(c = 39 ∨ c = 34) := by
  cases derives with
  | nullWord word => exact word_head (by decide) word
  | trueWord word => exact word_head (by decide) word
  | falseWord word => exact word_head (by decide) word
  | zero => exact ⟨48, [], rfl, by decide⟩
  | @hex x digits mark nonempty short all => exact ⟨48, x :: digits, rfl, by decide⟩
  | decimal nonempty all leading fits =>
    obtain ⟨c, rest, rfl⟩ := List.exists_cons_of_ne_nil nonempty
    refine ⟨c, rest, rfl, ?_⟩
    have digit := all c List.mem_cons_self
    rintro (rfl | rfl)
    · exact absurd digit (by decide)
    · exact absurd digit (by decide)
  | @negative digits all positive fits => exact ⟨45, digits, rfl, by decide⟩
  | double starts plain marked short read =>
    obtain ⟨c, first, start⟩ := starts
    obtain ⟨rest, rfl⟩ := List.head?_eq_some_iff.mp first
    refine ⟨c, rest, rfl, ?_⟩
    rintro (rfl | rfl)
    · exact absurd start (by decide)
    · exact absurd start (by decide)
where
  word_head {token word : List UInt8} (letter : ∃ c ∈ word.head?, 97 ≤ c)
      (same : token.map toLower = word) : ∃ c rest, token = c :: rest ∧ ¬(c = 39 ∨ c = 34) := by
    obtain ⟨c, first, low⟩ := letter
    match token with
    | [] =>
      subst same
      cases first
    | other :: rest =>
      refine ⟨other, rest, rfl, ?_⟩
      subst same
      cases first
      rintro (rfl | rfl)
      · exact absurd low (by decide)
      · exact absurd low (by decide)

/-- The primitive branch classifies the bytes up to the next delimiter. -/
theorem parsePrimitive_eq {c : UInt8} {input token rest : List UInt8}
    (here : At b (c :: input) ctx) (split : c :: input = token ++ rest)
    (whole : ∀ c ∈ token, c ∉ delimiters) (ended : Ended rest) :
    parsePrimitive env (.ofList b) ctx =
      primitive env token c { ctx with pos := ctx.pos + token.length } := by
  have found : scan (fun c => !isDelimiter c) b (b.length - ctx.pos) ctx.pos =
      .ok (ctx.pos + token.length) := by
    apply scan_gap (here.left.trans split)
    · intro other inside
      exact isDelimiter_false.mpr (whole other inside)
    · intro first is
      rw [Bool.not_eq_false']
      exact isDelimiter_iff.mpr (ended first is)
  have first : (token ++ rest).head? = some c := by
    rw [← split]
    rfl
  unfold parsePrimitive
  simp only [Program.get_bind, ofList_data, ofList_len, found, Program.modify_bind]
  exact parseItem_walk (here.left.trans split) first

/-- The primitive branch reads a whole token of the grammar. -/
theorem parsePrimitive_run {token rest : List UInt8} {value : JsonValue}
    (whole : ∀ c ∈ token, c ∉ delimiters) (derives : Atom env.strtod token value)
    (ended : Ended rest) (here : At b (token ++ rest) ctx) :
    parsePrimitive env (.ofList b) ctx =
      (.ok value, { ctx with pos := ctx.pos + token.length }) := by
  obtain ⟨c, tail, rfl, -⟩ := Atom.head derives
  rw [parsePrimitive_eq here rfl whole ended]
  exact primitive_run derives

/-- Every input starts with a whole token, which may be empty. -/
theorem token_split (input : List UInt8) : ∃ token rest, input = token ++ rest ∧
    (∀ c ∈ token, c ∉ delimiters) ∧ Ended rest := by
  rcases gap_split (fun c => !isDelimiter c) input with all | ⟨gap, d, rest, split, all, stops⟩
  · refine ⟨input, [], (List.append_nil _).symm, ?_, ?_⟩
    · intro other inside
      exact isDelimiter_false.mp (all other inside)
    · intro first none
      cases none
  · refine ⟨gap, d :: rest, split, ?_, ?_⟩
    · intro other inside
      exact isDelimiter_false.mp (all other inside)
    · intro first is
      cases is
      rw [Bool.not_eq_false'] at stops
      exact isDelimiter_iff.mp stops

/-- No delimiter starts a primitive value; the brackets and the whitespace are dealt with
before. -/
theorem primitive_delimiter {c : UInt8} (delimiter : c ∈ delimiters) (other : c ∉ spaces)
    (brace : c ≠ 123) (bracket : c ≠ 91) :
    primitive env [] c ctx = (.error (.code jsonErrSyntax), ctx) := by
  unfold delimiters at delimiter
  rw [List.mem_append] at delimiter
  rcases delimiter with space | delimiter
  · exact absurd space other
  · simp only [List.mem_cons, List.not_mem_nil, or_false] at delimiter
    rcases delimiter with rfl | rfl | rfl | rfl | rfl | rfl
    · rfl
    · rfl
    · exact absurd rfl bracket
    · rfl
    · exact absurd rfl brace
    · rfl

/-- The primitive branch returns the value of a whole token of the grammar. -/
theorem parsePrimitive_ends {c : UInt8} {input : List UInt8} (other : c ∉ spaces)
    (brace : c ≠ 123) (bracket : c ≠ 91) (here : At b (c :: input) ctx) :
    (parsePrimitive env (.ofList b)).Ends ctx (fun value last => ∃ token rest,
      c :: input = token ++ rest ∧ (∀ c ∈ token, c ∉ delimiters) ∧ Atom env.strtod token value ∧
      Ended rest ∧ At b rest last) Refusal := by
  obtain ⟨token, rest, split, whole, ended⟩ := token_split (c :: input)
  apply Program.Ends.of_run (parsePrimitive_eq here split whole ended)
  match token with
  | [] =>
    have delimiter : c ∈ delimiters := ended c (by rw [← List.nil_append rest, ← split]; rfl)
    exact .of_error (primitive_delimiter delimiter other brace bracket)
      (show jsonErrSyntax < 0 by decide)
  | first :: tail =>
    cases split
    apply Program.Ends.weaken (primitive_ends env _ _ _)
    rintro value last ⟨rfl, derives⟩
    exact ⟨c :: tail, rest, rfl, whole, derives, ended, here.skip⟩

/-- A value starts neither with whitespace nor with a closing bracket. -/
theorem Value.head {strtod : List UInt8 → Nat × Nat} {text : List UInt8} {value : JsonValue}
    (derives : Value strtod text value) : ∃ c rest, text = c :: rest ∧ c ∉ spaces ∧ c ≠ 93 := by
  cases derives with
  | token whole derives =>
    obtain ⟨c, rest, rfl, -⟩ := Atom.head derives
    have outside := whole c List.mem_cons_self
    unfold delimiters at outside
    rw [List.mem_append] at outside
    refine ⟨c, rest, rfl, fun space => outside (Or.inl space), ?_⟩
    rintro rfl
    exact outside (Or.inr (by decide))
  | string quoted =>
    cases quoted with
    | @intro q text _ quote content short =>
      refine ⟨q, text ++ [q], rfl, ?_, ?_⟩
      · rcases quote with rfl | rfl
        · decide
        · decide
      · rcases quote with rfl | rfl
        · decide
        · decide
  | emptyObject blank => exact ⟨123, _, rfl, by decide, by decide⟩
  | object members => exact ⟨123, _, rfl, by decide, by decide⟩
  | emptyArray blank => exact ⟨91, _, rfl, by decide, by decide⟩
  | array elements => exact ⟨91, _, rfl, by decide, by decide⟩

/-- A value was read behind a gap. -/
def ReadValue (env : JsonEnv) (b input : List UInt8) (value : JsonValue) (last : JsonCtx) : Prop :=
  ∃ gap text rest, input = gap ++ text ++ rest ∧ Spaces gap ∧ Value env.strtod text value ∧
    (Primitive value → Ended rest) ∧ At b rest last

/-- What is left of an object inside its braces; it may be blank unless a comma came before. -/
def ObjectRest (strtod : List UInt8 → Nat × Nat) (needField : Bool) (text : List UInt8)
    (more : List (List UInt8 × JsonValue)) : Prop :=
  Members strtod text more ∨ needField = false ∧ more = [] ∧ Spaces text

/-- What is left of an array inside its brackets; it may be blank unless a comma came before. -/
def ArrayRest (strtod : List UInt8 → Nat × Nat) (needField : Bool) (text : List UInt8)
    (more : List JsonValue) : Prop :=
  Elements strtod text more ∨ needField = false ∧ more = [] ∧ Spaces text

/-- The rest of an object was read, behind `fields`. -/
def ReadObject (env : JsonEnv) (b input : List UInt8) (needField : Bool)
    (fields : List (List UInt8 × JsonValue)) (all : List (List UInt8 × JsonValue))
    (last : JsonCtx) : Prop :=
  ∃ text rest more, input = text ++ 125 :: rest ∧ all = fields ++ more ∧
    ObjectRest env.strtod needField text more ∧ At b rest last

/-- The rest of an array was read, behind `values`. -/
def ReadArray (env : JsonEnv) (b input : List UInt8) (needField : Bool) (values : List JsonValue)
    (all : List JsonValue) (last : JsonCtx) : Prop :=
  ∃ text rest more, input = text ++ 93 :: rest ∧ all = values ++ more ∧
    ArrayRest env.strtod needField text more ∧ At b rest last

/-- With `fuel` calls left, every value that is read has a derivation. -/
def ValuesEnd (env : JsonEnv) (b : List UInt8) (fuel : Nat) : Prop :=
  ∀ input ctx, At b input ctx → 2 * input.length + 1 ≤ fuel →
    (parseValue env (.ofList b) fuel).Ends ctx (ReadValue env b input) Refusal

/-- With `fuel` calls left, every rest of an object that is read has a derivation. -/
def ObjectsEnd (env : JsonEnv) (b : List UInt8) (fuel : Nat) : Prop :=
  ∀ input needField fields ctx, At b input ctx → 2 * input.length + 2 ≤ fuel →
    (parseObject env (.ofList b) needField fields fuel).Ends ctx
      (ReadObject env b input needField fields) Refusal

/-- With `fuel` calls left, every rest of an array that is read has a derivation. -/
def ArraysEnd (env : JsonEnv) (b : List UInt8) (fuel : Nat) : Prop :=
  ∀ input needField values ctx, At b input ctx → 2 * input.length + 2 ≤ fuel →
    (parseArray env (.ofList b) needField values fuel).Ends ctx
      (ReadArray env b input needField values) Refusal

/-- Counting an allocation moves nothing. -/
theorem At.allocate {input : List UInt8} (here : At b input ctx) :
    At b input { ctx with allocs := ctx.allocs + 1 } := ⟨here.left, here.inside, here.roomy⟩

/-- What `ngx_nats_json_parse_value` returns has a derivation. -/
theorem parseValue_ends {fuel : Nat}
    (objects : ObjectsEnd env b fuel) (arrays : ArraysEnd env b fuel) :
    ValuesEnd env b (fuel + 1) := by
  intro input ctx here enough
  rw [parseValue]
  apply Program.Ends.bind (skipSpaces_ends here)
  rintro _ middle ⟨gap, c, after, rfl, blank, other, there⟩
  rw [List.length_append, List.length_cons] at enough
  apply Program.Ends.step (Program.get_run middle)
  apply Program.Ends.step (byte_head there.left middle)
  by_cases brace : c = 123
  · rw [if_pos brace]
    apply Program.Ends.step (Program.modify_run _ middle)
    apply Program.Ends.bind (allocate_ends env _)
    rintro _ _ rfl
    apply Program.Ends.bind (allocate_ends env _)
    rintro _ _ rfl
    apply Program.Ends.bind (objects after false [] _ there.next.allocate.allocate (by omega))
    rintro all last ⟨text, rest, more, rfl, rfl, derives, behind⟩
    refine .of_ok rfl ⟨gap, [123] ++ text ++ [125], rest, ?_, blank, ?_, False.elim, behind⟩
    · rw [brace, List.append_assoc, List.append_assoc, List.append_assoc]
      rfl
    · rcases derives with members | ⟨_, rfl, inner⟩
      · exact .object members
      · exact .emptyObject inner
  rw [if_neg brace]
  by_cases bracket : c = 91
  · rw [if_pos bracket]
    apply Program.Ends.step (Program.modify_run _ middle)
    apply Program.Ends.bind (allocate_ends env _)
    rintro _ _ rfl
    apply Program.Ends.bind (allocate_ends env _)
    rintro _ _ rfl
    apply Program.Ends.bind (arrays after false [] _ there.next.allocate.allocate (by omega))
    rintro all last ⟨text, rest, more, rfl, rfl, derives, behind⟩
    refine .of_ok rfl ⟨gap, [91] ++ text ++ [93], rest, ?_, blank, ?_, False.elim, behind⟩
    · rw [bracket, List.append_assoc, List.append_assoc, List.append_assoc]
      rfl
    · rcases derives with elements | ⟨_, rfl, inner⟩
      · exact .array elements
      · exact .emptyArray inner
  rw [if_neg bracket]
  by_cases quote : c = 39 ∨ c = 34
  · rw [if_pos quote]
    apply Program.Ends.step (Program.modify_run _ middle)
    apply Program.Ends.bind (allocate_ends env _)
    rintro _ _ rfl
    apply Program.Ends.bind (parseString_ends env c there.next.allocate)
    rintro bytes last ⟨body, rest, rfl, content, short, behind⟩
    refine .of_ok rfl ⟨gap, [c] ++ body ++ [c], rest, ?_, blank, ?_, False.elim, behind⟩
    · rw [List.append_assoc, List.append_assoc, List.append_assoc]
      rfl
    · exact .string (.intro quote.symm content short)
  rw [if_neg quote]
  apply Program.Ends.weaken (parsePrimitive_ends other brace bracket there)
  rintro value last ⟨token, rest, split, whole, derives, ended, behind⟩
  refine ⟨gap, token, rest, ?_, blank, .token whole derives, fun _ => ended, behind⟩
  rw [split, List.append_assoc]

/-- What a round of `ngx_nats_json_parse_object` and the rounds after it return has a
derivation. -/
theorem parseObject_ends {fuel : Nat}
    (values : ValuesEnd env b fuel) (objects : ObjectsEnd env b fuel) :
    ObjectsEnd env b (fuel + 1) := by
  intro input needField fields ctx here enough
  rw [parseObject]
  apply Program.Ends.step (Program.get_run ctx)
  by_cases inside : ctx.pos < b.length
  swap
  · rw [if_neg (show ¬ctx.pos < (Str.ofList b).len from inside)]
    exact .of_error rfl (show jsonErrEof < 0 by decide)
  rw [if_pos (show ctx.pos < (Str.ofList b).len from inside)]
  apply Program.Ends.bind (skipSpaces_ends here)
  rintro _ middle ⟨before, c, after, rfl, first, other, there⟩
  apply Program.Ends.step there.nextByte_run
  by_cases brace : c = 125
  · subst brace
    rw [if_pos rfl]
    cases needField with
    | true => exact .of_error rfl (show jsonErrSyntax < 0 by decide)
    | false =>
      exact .of_ok rfl ⟨before, after, [], rfl, (List.append_nil fields).symm,
        Or.inr ⟨rfl, rfl, first⟩, there.next⟩
  rw [if_neg brace]
  by_cases quote : c ≠ 39 ∧ c ≠ 34
  · rw [if_pos quote]
    exact .of_error rfl (show jsonErrSyntax < 0 by decide)
  rw [if_neg quote]
  apply Program.Ends.bind (allocate_ends env _)
  rintro _ _ rfl
  apply Program.Ends.bind (parseString_ends env c there.next.allocate)
  rintro name labelled ⟨label, input, rfl, content, short, named⟩
  by_cases empty : name.length = 0
  · rw [if_pos empty]
    exact .of_error rfl (show jsonErrSyntax < 0 by decide)
  rw [if_neg empty]
  apply Program.Ends.bind (skipSpaces_ends named)
  rintro _ spaced ⟨between, colon, input, rfl, second, -, atColon⟩
  apply Program.Ends.step atColon.nextByte_run
  by_cases isColon : colon ≠ 58
  · rw [if_pos isColon]
    exact .of_error rfl (show jsonErrSyntax < 0 by decide)
  rw [if_neg isColon]
  simp only [List.length_append, List.length_cons] at enough
  apply Program.Ends.bind (values input _ atColon.next (by omega))
  rintro value valued ⟨gap, text, input, rfl, third, derives, -, behindValue⟩
  apply Program.Ends.bind (skipSpaces_ends behindValue)
  rintro _ closing ⟨behind, d, rest, rfl, last, -, atEnd⟩
  apply Program.Ends.step atEnd.nextByte_run
  have member : Member env.strtod
      (before ++ ([c] ++ label ++ [c]) ++ between ++ [58] ++ gap ++ text ++ behind)
      (name, value) := by
    apply Member.intro first (.intro ?_ content short) ?_ second third derives last
    · by_contra neither
      exact quote ⟨fun is => neither (Or.inr is), fun is => neither (Or.inl is)⟩
    · intro nothing
      exact empty (List.length_eq_zero_iff.mpr nothing)
  have split : before ++ c :: (label ++ c :: (between ++ colon :: (gap ++ text ++
      (behind ++ d :: rest)))) = (before ++ ([c] ++ label ++ [c]) ++ between ++ [58] ++ gap ++
        text ++ behind) ++ d :: rest := by
    rw [Decidable.of_not_not isColon]
    simp only [List.append_assoc, List.cons_append, List.nil_append]
  rw [split]
  by_cases ends : d = 125
  · rw [if_pos ends]
    exact .of_ok rfl ⟨_, rest, [(name, value)], by rw [ends], rfl,
      Or.inl (.one member), atEnd.next⟩
  rw [if_neg ends]
  by_cases comma : d = 44
  · rw [if_pos comma]
    simp only [List.length_append, List.length_cons] at enough
    apply Program.Ends.weaken (objects rest true _ _ atEnd.next (by omega))
    rintro all final ⟨others, rest, more, rfl, rfl, derives, there⟩
    rcases derives with members | ⟨impossible, _, _⟩
    · refine ⟨_, rest, (name, value) :: more, ?_, ?_, Or.inl (.more member members), there⟩
      · rw [comma]
        simp only [List.append_assoc, List.cons_append, List.nil_append]
      · rw [List.append_assoc]
        rfl
    · exact absurd impossible.symm Bool.false_ne_true
  · rw [if_neg comma]
    exact .of_error rfl (show jsonErrSyntax < 0 by decide)

/-- What a round of `ngx_nats_json_parse_array` and the rounds after it return has a derivation. -/
theorem parseArray_ends {fuel : Nat}
    (items : ValuesEnd env b fuel) (arrays : ArraysEnd env b fuel) :
    ArraysEnd env b (fuel + 1) := by
  intro input needField values ctx here enough
  rw [parseArray]
  apply Program.Ends.step (Program.get_run ctx)
  by_cases inside : ctx.pos < b.length
  swap
  · rw [if_neg (show ¬ctx.pos < (Str.ofList b).len from inside)]
    exact .of_error rfl (show jsonErrEof < 0 by decide)
  rw [if_pos (show ctx.pos < (Str.ofList b).len from inside)]
  apply Program.Ends.bind (skipSpaces_ends here)
  rintro _ middle ⟨before, c, after, rfl, first, other, there⟩
  apply Program.Ends.step (Program.get_run middle)
  apply Program.Ends.step (byte_head there.left middle)
  by_cases bracket : c = 93
  · subst bracket
    rw [if_pos rfl]
    cases needField with
    | true => exact .of_error rfl (show jsonErrSyntax < 0 by decide)
    | false =>
      exact .of_ok rfl ⟨before, after, [], rfl, (List.append_nil values).symm,
        Or.inr ⟨rfl, rfl, first⟩, there.next⟩
  rw [if_neg bracket]
  simp only [List.length_append, List.length_cons] at enough
  apply Program.Ends.bind (allocate_ends env _)
  rintro _ _ rfl
  apply Program.Ends.bind (items (c :: after) _ there.allocate (by rw [List.length_cons]; omega))
  rintro value valued ⟨gap, text, input, split, second, derives, -, behindValue⟩
  apply Program.Ends.bind (skipSpaces_ends behindValue)
  rintro _ closing ⟨behind, d, rest, rfl, last, -, atEnd⟩
  apply Program.Ends.step atEnd.nextByte_run
  -- the gap before the value was skipped already
  have nothing : gap = [] := by
    match gap with
    | [] => rfl
    | space :: _ =>
      cases split
      exact absurd (second c List.mem_cons_self) other
  subst nothing
  have size := congrArg List.length split
  simp only [List.length_append, List.length_cons, List.length_nil] at size
  rw [split, List.nil_append]
  by_cases ends : d = 93
  · rw [if_pos ends]
    refine .of_ok rfl ⟨before ++ text ++ behind, rest, [value], ?_, rfl,
      Or.inl (.one first derives last), atEnd.next⟩
    rw [ends]
    simp only [List.append_assoc]
  rw [if_neg ends]
  by_cases comma : d = 44
  · rw [if_pos comma]
    apply Program.Ends.weaken (arrays rest true _ _ atEnd.next (by omega))
    rintro all final ⟨others, rest, more, rfl, rfl, remaining, there⟩
    rcases remaining with elements | ⟨impossible, _, _⟩
    · refine ⟨_, rest, value :: more, ?_, ?_, Or.inl (.more first derives last elements), there⟩
      · rw [comma]
        simp only [List.append_assoc, List.cons_append, List.nil_append]
      · rw [List.append_assoc]
        rfl
    · exact absurd impossible.symm Bool.false_ne_true
  · rw [if_neg comma]
    exact .of_error rfl (show jsonErrSyntax < 0 by decide)

/-- Whatever the bound of calls is, everything that is read has a derivation. -/
theorem reads_end (env : JsonEnv) (b : List UInt8) (fuel : Nat) :
    ValuesEnd env b fuel ∧ ObjectsEnd env b fuel ∧ ArraysEnd env b fuel := by
  induction fuel with
  | zero =>
    refine ⟨?_, ?_, ?_⟩
    · intro input ctx here enough
      omega
    · intro input needField fields ctx here enough
      omega
    · intro input needField values ctx here enough
      omega
  | succ fuel ih =>
    obtain ⟨values, objects, arrays⟩ := ih
    exact ⟨parseValue_ends objects arrays, parseObject_ends values objects,
      parseArray_ends values arrays⟩

/-- With `fuel` calls left, a value of the grammar is read. -/
def ValuesRun (env : JsonEnv) (b : List UInt8) (fuel : Nat) : Prop :=
  ∀ {gap text rest value ctx}, Spaces gap → Value env.strtod text value →
    (Primitive value → Ended rest) → At b (gap ++ (text ++ rest)) ctx → 2 * text.length + 1 ≤ fuel →
    ∃ last, parseValue env (.ofList b) fuel ctx = (.ok value, last) ∧ At b rest last

/-- With `fuel` calls left, the rest of an object of the grammar is read. -/
def ObjectsRun (env : JsonEnv) (b : List UInt8) (fuel : Nat) : Prop :=
  ∀ {text rest more needField fields ctx}, ObjectRest env.strtod needField text more →
    At b (text ++ 125 :: rest) ctx → 2 * text.length + 2 ≤ fuel →
    ∃ last, parseObject env (.ofList b) needField fields fuel ctx = (.ok (fields ++ more), last) ∧
      At b rest last

/-- With `fuel` calls left, the rest of an array of the grammar is read. -/
def ArraysRun (env : JsonEnv) (b : List UInt8) (fuel : Nat) : Prop :=
  ∀ {text rest more needField values ctx}, ArrayRest env.strtod needField text more →
    At b (text ++ 93 :: rest) ctx → 2 * text.length + 2 ≤ fuel →
    ∃ last, parseArray env (.ofList b) needField values fuel ctx = (.ok (values ++ more), last) ∧
      At b rest last

/-- The position is inside the text while a byte is left. -/
theorem At.within {gap rest : List UInt8} {c : UInt8} (here : At b (gap ++ c :: rest) ctx) :
    ctx.pos < (Str.ofList b).len := by
  have pos := here.pos_eq
  rw [List.length_append, List.length_cons] at pos
  show ctx.pos < b.length
  omega

/-- An object in braces is read when what is inside of them is. -/
theorem parseValue_object (allocates : ∀ n, env.pool n = true) {fuel : Nat}
    (objects : ObjectsRun env b fuel) {gap inner rest : List UInt8}
    {fields : List (List UInt8 × JsonValue)} (blank : Spaces gap)
    (derives : ObjectRest env.strtod false inner fields)
    (here : At b (gap ++ 123 :: (inner ++ 125 :: rest)) ctx)
    (enough : 2 * inner.length + 2 ≤ fuel) :
    ∃ last, parseValue env (.ofList b) (fuel + 1) ctx = (.ok (.object fields), last) ∧
      At b rest last := by
  obtain ⟨last, run, behind⟩ :=
    @objects inner rest fields false [] _ derives here.skip.next.allocate.allocate enough
  refine ⟨last, ?_, behind⟩
  rw [parseValue, Program.bind_ok (skipSpaces_run here blank (by decide)), Program.get_bind,
    Program.bind_ok (byte_head here.skip.left _), if_pos rfl, Program.modify_bind,
    Program.bind_ok (allocate_run allocates _), Program.bind_ok (allocate_run allocates _),
    Program.bind_ok run]
  rfl

/-- An array in brackets is read when what is inside of them is. -/
theorem parseValue_array (allocates : ∀ n, env.pool n = true) {fuel : Nat}
    (arrays : ArraysRun env b fuel) {gap inner rest : List UInt8} {values : List JsonValue}
    (blank : Spaces gap) (derives : ArrayRest env.strtod false inner values)
    (here : At b (gap ++ 91 :: (inner ++ 93 :: rest)) ctx)
    (enough : 2 * inner.length + 2 ≤ fuel) :
    ∃ last, parseValue env (.ofList b) (fuel + 1) ctx = (.ok (.array values), last) ∧
      At b rest last := by
  obtain ⟨last, run, behind⟩ :=
    @arrays inner rest values false [] _ derives here.skip.next.allocate.allocate enough
  refine ⟨last, ?_, behind⟩
  rw [parseValue, Program.bind_ok (skipSpaces_run here blank (by decide)), Program.get_bind,
    Program.bind_ok (byte_head here.skip.left _), if_neg (by decide), if_pos rfl,
    Program.modify_bind, Program.bind_ok (allocate_run allocates _),
    Program.bind_ok (allocate_run allocates _), Program.bind_ok run]
  rfl

/-- A quoted string is read as a value. -/
theorem parseValue_string (allocates : ∀ n, env.pool n = true) {fuel : Nat} {q : UInt8}
    {gap body bytes rest : List UInt8} (blank : Spaces gap) (quote : q = 34 ∨ q = 39)
    (content : Content q body bytes) (short : bytes.length ≤ 1048574)
    (here : At b (gap ++ q :: (body ++ q :: rest)) ctx) :
    ∃ last, parseValue env (.ofList b) (fuel + 1) ctx = (.ok (.string bytes), last) ∧
      At b rest last := by
  have plain : q ∉ spaces ∧ q ≠ 123 ∧ q ≠ 91 ∧ q ≠ 92 := by
    rcases quote with rfl | rfl
    · decide
    · decide
  obtain ⟨last, run, behind⟩ :=
    parseString_run allocates plain.2.2.2 content short here.skip.next.allocate
  refine ⟨last, ?_, behind⟩
  rw [parseValue, Program.bind_ok (skipSpaces_run here blank plain.1), Program.get_bind,
    Program.bind_ok (byte_head here.skip.left _), if_neg plain.2.1, if_neg plain.2.2.1,
    if_pos quote.symm, Program.modify_bind, Program.bind_ok (allocate_run allocates _),
    Program.bind_ok run]
  rfl

/-- A token is read as a value. -/
theorem parseValue_token {fuel : Nat} {gap token rest : List UInt8} {value : JsonValue}
    (blank : Spaces gap) (whole : ∀ c ∈ token, c ∉ delimiters)
    (derives : Atom env.strtod token value) (ended : Ended rest)
    (here : At b (gap ++ (token ++ rest)) ctx) :
    ∃ last, parseValue env (.ofList b) (fuel + 1) ctx = (.ok value, last) ∧ At b rest last := by
  refine ⟨_, ?_, here.skip.skip⟩
  obtain ⟨c, tail, rfl, unquoted⟩ := Atom.head derives
  have outside := whole c List.mem_cons_self
  have brace : c ≠ 123 := by
    rintro rfl
    exact outside (by decide)
  have bracket : c ≠ 91 := by
    rintro rfl
    exact outside (by decide)
  have other : c ∉ spaces := fun space => outside (List.mem_append_left _ space)
  rw [parseValue, Program.bind_ok (skipSpaces_run here blank other), Program.get_bind,
    Program.bind_ok (byte_head here.skip.left _), if_neg brace, if_neg bracket, if_neg unquoted]
  exact parsePrimitive_run whole derives ended here.skip

/-- A value of the grammar that is one token is primitive. -/
theorem Atom.primitive {strtod : List UInt8 → Nat × Nat} {token : List UInt8} {value : JsonValue}
    (derives : Atom strtod token value) : Primitive value := by
  cases derives with
  | nullWord => trivial
  | trueWord => trivial
  | falseWord => trivial
  | zero => trivial
  | hex => trivial
  | decimal => trivial
  | negative => trivial
  | double => trivial

/-- `ngx_nats_json_parse_value` reads every value of the grammar. -/
theorem parseValue_run (allocates : ∀ n, env.pool n = true) {fuel : Nat}
    (objects : ObjectsRun env b fuel) (arrays : ArraysRun env b fuel) :
    ValuesRun env b (fuel + 1) := by
  intro gap text rest value ctx blank derives ended here enough
  cases derives with
  | token whole derives =>
    exact parseValue_token blank whole derives (ended (Atom.primitive derives)) here
  | string quoted =>
    cases quoted with
    | intro quote content short =>
      simp only [List.append_assoc, List.singleton_append] at here
      exact parseValue_string allocates blank quote content short here
  | emptyObject inner =>
    simp only [List.append_assoc, List.singleton_append] at here
    simp only [List.length_append, List.length_singleton] at enough
    exact parseValue_object allocates objects blank (Or.inr ⟨rfl, rfl, inner⟩) here (by omega)
  | object members =>
    simp only [List.append_assoc, List.singleton_append] at here
    simp only [List.length_append, List.length_singleton] at enough
    exact parseValue_object allocates objects blank (Or.inl members) here (by omega)
  | emptyArray inner =>
    simp only [List.append_assoc, List.singleton_append] at here
    simp only [List.length_append, List.length_singleton] at enough
    exact parseValue_array allocates arrays blank (Or.inr ⟨rfl, rfl, inner⟩) here (by omega)
  | array elements =>
    simp only [List.append_assoc, List.singleton_append] at here
    simp only [List.length_append, List.length_singleton] at enough
    exact parseValue_array allocates arrays blank (Or.inl elements) here (by omega)

/-- A gap before a delimiter ends a token. -/
theorem ended_gap {gap rest : List UInt8} {d : UInt8} (blank : Spaces gap)
    (stops : d ∈ delimiters) :
    Ended (gap ++ d :: rest) := by
  intro c first
  match gap with
  | [] =>
    cases first
    exact stops
  | space :: _ =>
    cases first
    exact List.mem_append_left _ (blank c List.mem_cons_self)

/-- A round of `ngx_nats_json_parse_object` reads one field and what ends it. -/
theorem parseObject_member (allocates : ∀ n, env.pool n = true) {fuel : Nat}
    (values : ValuesRun env b fuel) {text rest : List UInt8} {d : UInt8}
    {field : List UInt8 × JsonValue} {needField : Bool} {fields : List (List UInt8 × JsonValue)}
    (member : Member env.strtod text field) (stops : d ∈ delimiters) (solid : d ∉ spaces)
    (here : At b (text ++ d :: rest) ctx) (enough : 2 * text.length + 1 ≤ fuel) :
    ∃ last, At b rest last ∧ parseObject env (.ofList b) needField fields (fuel + 1) ctx =
      (if d = 125 then pure (fields ++ [field])
        else if d = 44 then parseObject env (.ofList b) true (fields ++ [field]) fuel
        else stop jsonErrSyntax) last := by
  cases member with
  | @intro before label between after text behind name value first quoted named second third
      derives last =>
    cases quoted with
    | @intro q body _ quote content short =>
      have plain : q ∉ spaces ∧ q ≠ 125 ∧ q ≠ 92 ∧ ¬(q ≠ 39 ∧ q ≠ 34) := by
        rcases quote with rfl | rfl
        · decide
        · decide
      simp only [List.append_assoc, List.singleton_append] at here
      simp only [List.length_append, List.length_singleton] at enough
      obtain ⟨labelled, label_run, atGap⟩ :=
        parseString_run allocates plain.2.2.1 content short here.skip.next.allocate
      have ended : Ended (behind ++ d :: rest) := ended_gap last stops
      obtain ⟨valued, value_run, atEnd⟩ := values third derives (fun _ => ended) atGap.skip.next
        (by omega)
      refine ⟨_, atEnd.skip.next, ?_⟩
      have unnamed : ¬name.length = 0 := fun empty => named (List.length_eq_zero_iff.mp empty)
      rw [parseObject, Program.get_bind, if_pos here.within,
        Program.bind_ok (skipSpaces_run here first plain.1),
        Program.bind_ok here.skip.nextByte_run, if_neg plain.2.1, if_neg plain.2.2.2,
        Program.bind_ok (allocate_run allocates _), Program.bind_ok label_run, if_neg unnamed,
        Program.bind_ok (skipSpaces_run atGap second (by decide)),
        Program.bind_ok atGap.skip.nextByte_run, if_neg (fun other => other rfl),
        Program.bind_ok value_run, Program.bind_ok (skipSpaces_run atEnd last solid),
        Program.bind_ok atEnd.skip.nextByte_run]

/-- `ngx_nats_json_parse_object` reads every object of the grammar. -/
theorem parseObject_run (allocates : ∀ n, env.pool n = true) {fuel : Nat}
    (values : ValuesRun env b fuel) (objects : ObjectsRun env b fuel) :
    ObjectsRun env b (fuel + 1) := by
  intro text rest more needField fields ctx derives here enough
  rcases derives with members | ⟨rfl, rfl, blank⟩
  · cases members with
    | @one _ field member =>
      obtain ⟨last, behind, run⟩ :=
        @parseObject_member env b ctx allocates fuel values text rest 125
        field needField fields member (by decide) (by decide) here (by omega)
      exact ⟨last, run, behind⟩
    | @more text others field later member members =>
      simp only [List.append_assoc, List.singleton_append] at here
      simp only [List.length_append, List.length_singleton] at enough
      obtain ⟨middle, between, run⟩ := @parseObject_member env b ctx allocates fuel values text
        (others ++ 125 :: rest) 44 field needField fields member (by decide) (by decide) here
        (by omega)
      obtain ⟨last, rest_run, behind⟩ := @objects others rest later true (fields ++ [field]) middle
        (Or.inl members) between (by omega)
      refine ⟨last, ?_, behind⟩
      rw [run, if_neg (by decide), if_pos rfl, rest_run, List.append_assoc]
      rfl
  · refine ⟨_, ?_, here.skip.next⟩
    rw [parseObject, Program.get_bind, if_pos here.within,
      Program.bind_ok (skipSpaces_run here blank (by decide)),
      Program.bind_ok here.skip.nextByte_run, List.append_nil]
    rfl

/-- A round of `ngx_nats_json_parse_array` reads one element and what ends it. -/
theorem parseArray_element (allocates : ∀ n, env.pool n = true) {fuel : Nat}
    (items : ValuesRun env b fuel) {before text behind rest : List UInt8} {d : UInt8}
    {value : JsonValue} {needField : Bool} {values : List JsonValue} (first : Spaces before)
    (derives : Value env.strtod text value) (last : Spaces behind) (stops : d ∈ delimiters)
    (solid : d ∉ spaces) (here : At b (before ++ (text ++ (behind ++ d :: rest))) ctx)
    (enough : 2 * text.length + 1 ≤ fuel) :
    ∃ last, At b rest last ∧ parseArray env (.ofList b) needField values (fuel + 1) ctx =
      (if d = 93 then pure (values ++ [value])
        else if d = 44 then parseArray env (.ofList b) true (values ++ [value]) fuel
        else stop jsonErrSyntax) last := by
  have ended : Ended (behind ++ d :: rest) := ended_gap last stops
  have nothing : Spaces [] := fun c none => absurd none List.not_mem_nil
  obtain ⟨valued, value_run, atEnd⟩ := @items [] text _ value _ nothing derives (fun _ => ended)
    here.skip.allocate enough
  obtain ⟨c, tail, rfl, other, bracket⟩ := Value.head derives
  refine ⟨_, atEnd.skip.next, ?_⟩
  rw [parseArray, Program.get_bind, if_pos here.within,
    Program.bind_ok (skipSpaces_run here first other), Program.get_bind,
    Program.bind_ok (byte_head here.skip.left _), if_neg bracket,
    Program.bind_ok (allocate_run allocates _), Program.bind_ok value_run,
    Program.bind_ok (skipSpaces_run atEnd last solid), Program.bind_ok atEnd.skip.nextByte_run]

/-- `ngx_nats_json_parse_array` reads every array of the grammar. -/
theorem parseArray_run (allocates : ∀ n, env.pool n = true) {fuel : Nat}
    (items : ValuesRun env b fuel) (arrays : ArraysRun env b fuel) :
    ArraysRun env b (fuel + 1) := by
  intro text rest more needField values ctx derives here enough
  rcases derives with elements | ⟨rfl, rfl, blank⟩
  · cases elements with
    | @one before text behind value first derives last =>
      simp only [List.append_assoc] at here
      simp only [List.length_append] at enough
      obtain ⟨final, there, run⟩ := @parseArray_element env b ctx allocates fuel items before text
        behind rest 93 value needField values first derives last (by decide) (by decide) here
        (by omega)
      exact ⟨final, run, there⟩
    | @more before text behind others value later first derives last elements =>
      simp only [List.append_assoc, List.singleton_append] at here
      simp only [List.length_append, List.length_singleton] at enough
      obtain ⟨middle, between, run⟩ :=
        @parseArray_element env b ctx allocates fuel items before text
        behind (others ++ 93 :: rest) 44 value needField values first derives last (by decide)
        (by decide) here (by omega)
      obtain ⟨final, rest_run, there⟩ := @arrays others rest later true (values ++ [value]) middle
        (Or.inl elements) between (by omega)
      refine ⟨final, ?_, there⟩
      rw [run, if_neg (by decide), if_pos rfl, rest_run, List.append_assoc]
      rfl
  · refine ⟨_, ?_, here.skip.next⟩
    rw [parseArray, Program.get_bind, if_pos here.within,
      Program.bind_ok (skipSpaces_run here blank (by decide)), Program.get_bind,
      Program.bind_ok (byte_head here.skip.left _), List.append_nil]
    rfl

/-- Whatever the bound of calls is, everything of the grammar that it allows is read. -/
theorem reads_run (allocates : ∀ n, env.pool n = true) (fuel : Nat) :
    ValuesRun env b fuel ∧ ObjectsRun env b fuel ∧ ArraysRun env b fuel := by
  induction fuel with
  | zero =>
    refine ⟨?_, ?_, ?_⟩
    · intro gap text rest value ctx blank derives ended here enough
      omega
    · intro text rest more needField fields ctx derives here enough
      omega
    · intro text rest more needField values ctx derives here enough
      omega
  | succ fuel ih =>
    obtain ⟨values, objects, arrays⟩ := ih
    exact ⟨parseValue_run allocates objects arrays, parseObject_run allocates values objects,
      parseArray_run allocates values arrays⟩

/-- The context `ngx_nats_json_parse` starts with, behind its two allocations. -/
theorem At.start (b : List UInt8) : At b b { allocs := 2 } where
  left := rfl
  inside := Nat.zero_le _
  roomy := ⟨0, Nat.zero_le _, rfl⟩

end NgxNats.Json

namespace NgxNats

open Dialect

variable {env : JsonEnv} {b : List UInt8}

/-- `ngx_nats_json_parse` passes on what `ngx_nats_json_parse_value` did with a text that is not
empty. -/
theorem jsonParse_eq (allocates : ∀ n, env.pool n = true) (nonempty : 0 < b.length) :
    jsonParse env (.ofList b) =
      match Json.parseValue env (.ofList b) (2 * b.length + 2) { allocs := 2 } with
      | (.ok value, ctx) => .ok (.ok (ctx.pos, value))
      | (.error (.code rc), _) => .ok (.error rc)
      | (.error (.fault fault), _) => .error fault := by
  unfold jsonParse
  rw [if_neg (show ¬(Str.ofList b).len < 1 from Nat.not_lt_of_le nonempty)]
  simp only
  rw [Program.bind_ok (Json.allocate_run allocates _),
    Program.bind_ok (Json.allocate_run allocates _)]
  rfl

/-- A text the grammar reads is not empty, and neither is what is read of it. -/
theorem Dialect.Reads.positive {strtod : List UInt8 → Nat × Nat} {n : Nat} {value : JsonValue}
    (reads : Dialect.Reads strtod b n value) : 0 < n ∧ n ≤ b.length := by
  obtain ⟨gap, text, rest, rfl, rfl, blank, derives, ended⟩ := reads
  obtain ⟨c, tail, rfl, -, -⟩ := Json.Value.head derives
  simp only [List.length_append, List.length_cons]
  omega

/-- A text that the grammar reads is parsed to the value. -/
theorem jsonParse_run (allocates : ∀ n, env.pool n = true) {n : Nat} {value : JsonValue}
    (reads : Dialect.Reads env.strtod b n value) :
    jsonParse env (.ofList b) = .ok (.ok (n, value)) := by
  have size := reads.positive
  obtain ⟨gap, text, rest, split, count, blank, derives, ended⟩ := reads
  have length := congrArg List.length split
  simp only [List.length_append] at length
  have start := Json.At.start b
  have here : Json.At b (gap ++ (text ++ rest)) { allocs := 2 } := by
    rw [← List.append_assoc, ← split]
    exact start
  obtain ⟨last, run, behind⟩ := (Json.reads_run allocates (2 * b.length + 2)).1 blank derives ended
    here (by omega)
  have stop : last.pos = n := by
    have pos := behind.pos_eq
    omega
  rw [jsonParse_eq allocates (by omega), run, ← stop]

/-- Whatever the text is and the pool answers, it is parsed to a value the grammar reads, or a
negative code is returned. -/
theorem jsonParse_cases (env : JsonEnv) (b : List UInt8) :
    (∃ n value, jsonParse env (.ofList b) = .ok (.ok (n, value)) ∧
      Dialect.Reads env.strtod b n value) ∨
      ∃ rc < 0, jsonParse env (.ofList b) = .ok (.error rc) := by
  unfold jsonParse
  by_cases empty : b.length < 1
  · right
    exact ⟨jsonErrSyntax, by decide, if_pos empty⟩
  rw [if_neg (show ¬(Str.ofList b).len < 1 from empty)]
  generalize same : (do
    Json.allocate env
    Json.allocate env
    Json.parseValue env (.ofList b) (2 * (Str.ofList b).len + 2) : Json JsonValue) = program
  have ends : program.Ends {} (Json.ReadValue env b b) Json.Refusal := by
    subst same
    apply Program.Ends.bind (Json.allocate_ends env _)
    rintro _ _ rfl
    apply Program.Ends.bind (Json.allocate_ends env _)
    rintro _ _ rfl
    exact (Json.reads_end env b _).1 b _ (Json.At.start b) (Nat.le_succ _)
  match run : program {} with
  | (.ok value, last) =>
    left
    obtain ⟨gap, text, rest, split, blank, derives, ended, behind⟩ := ends.ok run
    refine ⟨last.pos, value, by simp only [run], gap, text, rest, split, ?_, blank, derives, ended⟩
    have length := congrArg List.length split
    have pos := behind.pos_eq
    simp only [List.length_append] at length
    omega
  | (.error (.code rc), last) =>
    right
    exact ⟨rc, ends.error run, by simp only [run]⟩
  | (.error (.fault fault), last) => exact absurd (ends.error run) id

/-- What is parsed is read by the grammar. -/
theorem jsonParse_reads {n : Nat} {value : JsonValue}
    (parsed : jsonParse env (.ofList b) = .ok (.ok (n, value))) :
    Dialect.Reads env.strtod b n value := by
  rcases jsonParse_cases env b with ⟨n', value', parsed', reads⟩ | ⟨rc, _, refused⟩
  · rw [parsed] at parsed'
    cases parsed'
    exact reads
  · rw [parsed] at refused
    cases refused

/-- `ngx_nats_json_parse` accepts exactly its dialect: it returns a positive count with a value
if and only if the grammar reads that value from that many bytes; the grammar reads at most one
value from a text; and from a text it reads nothing of, the parser returns a negative code and no
value. -/
theorem json_dialect (env : JsonEnv) (allocates : ∀ n, env.pool n = true) (b : List UInt8) :
    (∀ n value, (jsonParse env (.ofList b) = .ok (.ok (n, value)) ∧ 0 < n) ↔
      (n ≤ b.length ∧ Dialect.Reads env.strtod b n value)) ∧
    (∀ n value n' value',
      Dialect.Reads env.strtod b n value → Dialect.Reads env.strtod b n' value' →
      n = n' ∧ value = value') ∧
    ((¬∃ n value, n ≤ b.length ∧ Dialect.Reads env.strtod b n value) →
      ∃ rc < 0, jsonParse env (.ofList b) = .ok (.error rc)) := by
  refine ⟨fun n value => ⟨?_, ?_⟩, ?_, ?_⟩
  · rintro ⟨parsed, positive⟩
    have reads := jsonParse_reads parsed
    exact ⟨reads.positive.2, reads⟩
  · rintro ⟨_, reads⟩
    exact ⟨jsonParse_run allocates reads, reads.positive.1⟩
  · intro n value n' value' first second
    have same := (jsonParse_run allocates first).symm.trans (jsonParse_run allocates second)
    cases same
    exact ⟨rfl, rfl⟩
  · intro nothing
    rcases jsonParse_cases env b with ⟨n, value, _, reads⟩ | refused
    · exact absurd ⟨n, value, reads.positive.2, reads⟩ nothing
    · exact refused

/-- A pool that never runs out and a `strtod` that reads nothing. -/
def plainJson : JsonEnv where
  pool _ := true
  strtod _ := (0, 0)

/-- ` [7,nUll]}` starts with an array of eight bytes behind a space. -/
theorem json_dialect_array :
    jsonParse plainJson (.ofList [32, 91, 55, 44, 110, 85, 108, 108, 93, 125]) =
      .ok (.ok (9, .array [.integer 7, .null])) := by
  have blank : Spaces [] := fun c none => absurd none List.not_mem_nil
  have seven : Value plainJson.strtod [55] (.integer 7) :=
    .token (by decide +kernel) (.decimal (by decide) (by decide +kernel) (by decide) (by decide))
  have null : Value plainJson.strtod [110, 85, 108, 108] .null :=
    .token (by decide +kernel) (.nullWord (by decide))
  have derives : Value plainJson.strtod [91, 55, 44, 110, 85, 108, 108, 93]
      (.array [.integer 7, .null]) := .array (.more blank seven blank (.one blank null blank))
  exact (((json_dialect plainJson (fun _ => rfl) [32, 91, 55, 44, 110, 85, 108, 108, 93, 125]).1 9
    (.array [.integer 7, .null])).mpr
      ⟨by decide, [32], _, [125], rfl, rfl, show ∀ c ∈ [32], c ∈ spaces by decide +kernel, derives,
        False.elim⟩).1

end NgxNats
