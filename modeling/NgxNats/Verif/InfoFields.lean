import NgxNats.Model.Reader

/-!
# The fields of an INFO message

What `ngx_nats_parse_info` takes over from the fields of an INFO message, and what it leaves alone.
-/
namespace NgxNats

/-- A name that matches one literal matches no other one. -/
theorem strcasecmp_other {name : List UInt8} {literal other : String}
    (matched : strcasecmp name literal = true)
    (differ : (ascii literal).map toLower ≠ (ascii other).map toLower) :
    strcasecmp name other = false := by
  simp only [strcasecmp, strncasecmp, beq_iff_eq] at matched
  simp only [strcasecmp, strncasecmp, matched, beq_eq_false_iff_ne]
  exact differ

/-- Names that match one literal match the same literals. -/
theorem strcasecmp_same {name : List UInt8} {literal : String}
    (matched : strcasecmp name literal = true)
    (whole : (ascii literal).takeWhile (· ≠ 0) = ascii literal) (other : String) :
    strcasecmp name other = strcasecmp (ascii literal) other := by
  simp only [strcasecmp, strncasecmp, beq_iff_eq] at matched
  simp only [strcasecmp, strncasecmp, matched, whole]

/-- A text. -/
def JsonValue.text : JsonValue → Option (List UInt8)
  | .string vstr => some vstr
  | _ => none

/-- A whole number. -/
def JsonValue.number : JsonValue → Option Int
  | .integer vint => some vint
  | _ => none

/-- A truth value. -/
def JsonValue.truth : JsonValue → Option Bool
  | .boolean vint => some (decide (vint ≠ 0))
  | _ => none

/-- The names that are looked for in an INFO message, and the values of their types. -/
def infoTypes : List (String × (JsonValue → Bool)) :=
  [("server_id", fun value => value.text.isSome), ("host", fun value => value.text.isSome),
    ("port", fun value => value.number.isSome), ("version", fun value => value.text.isSome),
    ("auth_required", fun value => value.truth.isSome),
    ("ssl_required", fun value => value.truth.isSome),
    ("max_payload", fun value => value.number.isSome), ("go", fun value => value.text.isSome)]

/-- The names that are looked for. -/
def infoNames : List String := infoTypes.map Prod.fst

/-- A field has a value of its type, if it has one of the names, in whatever case. -/
def wellTyped (field : List UInt8 × JsonValue) : Bool :=
  infoTypes.all fun entry => !strcasecmp field.1 entry.1 || entry.2 field.2

/-- What is kept of a connection: its state and the nginx connection, and the version once there is
one. -/
structure Kept (nc nc' : NatsConnection) : Prop where
  state : nc'.state = nc.state
  connection : nc'.connection = nc.connection
  version : nc.srvVersion.isSome → nc'.srvVersion.isSome

/-- A field is refused by every connection, or every connection takes it over the same way. -/
def Uniform (take : NatsConnection → Option NatsConnection) : Prop :=
  (∀ nc, take nc = none) ∨
    ∃ change : NatsConnection → NatsConnection,
      (∀ nc, take nc = some (change nc)) ∧ ∀ nc, Kept nc (change nc)

/-- A field that every connection refuses is uniform. -/
theorem uniform_none : Uniform fun _ => none := Or.inl fun _ => rfl

/-- A field that every connection takes over the same way is uniform. -/
theorem uniform_some {change : NatsConnection → NatsConnection} (kept : ∀ nc, Kept nc (change nc)) :
    Uniform fun nc => some (change nc) := Or.inr ⟨change, fun _ => rfl, kept⟩

/-- A choice that does not look at the connection. -/
theorem Uniform.ite {condition : Prop} [Decidable condition]
    {yes no : NatsConnection → Option NatsConnection} (first : Uniform yes) (second : Uniform no) :
    Uniform fun nc => if condition then yes nc else no nc := by
  by_cases met : condition
  · simpa only [if_pos met] using first
  · simpa only [if_neg met] using second

/-- A field that takes a text. -/
theorem uniform_string (value : JsonValue) {change : List UInt8 → NatsConnection → NatsConnection}
    (kept : ∀ vstr nc, Kept nc (change vstr nc)) :
    Uniform fun nc => match value with
      | .string vstr => some (change vstr nc)
      | _ => none := by
  cases value with
  | string vstr => exact uniform_some (kept vstr)
  | _ => exact uniform_none

/-- A field that takes a number. -/
theorem uniform_integer (value : JsonValue) {change : Int → NatsConnection → NatsConnection}
    (kept : ∀ vint nc, Kept nc (change vint nc)) :
    Uniform fun nc => match value with
      | .integer vint => some (change vint nc)
      | _ => none := by
  cases value with
  | integer vint => exact uniform_some (kept vint)
  | _ => exact uniform_none

/-- A field that takes a truth value. -/
theorem uniform_boolean (value : JsonValue) {change : Int → NatsConnection → NatsConnection}
    (kept : ∀ vint nc, Kept nc (change vint nc)) :
    Uniform fun nc => match value with
      | .boolean vint => some (change vint nc)
      | _ => none := by
  cases value with
  | boolean vint => exact uniform_some (kept vint)
  | _ => exact uniform_none

/-- Every field is refused by every connection or changes each the same way. -/
theorem infoField_uniform (name : List UInt8) (value : JsonValue) :
    (∀ nc, infoField nc name value = none) ∨ ∃ change : NatsConnection → NatsConnection,
      (∀ nc, infoField nc name value = some (change nc)) ∧ ∀ nc, Kept nc (change nc) := by
  change Uniform fun nc => infoField nc name value
  unfold infoField
  apply Uniform.ite
  · exact uniform_string value fun _ _ => ⟨rfl, rfl, id⟩
  apply Uniform.ite
  · exact uniform_string value fun _ _ => ⟨rfl, rfl, id⟩
  apply Uniform.ite
  · exact uniform_integer value fun _ _ => ⟨rfl, rfl, id⟩
  apply Uniform.ite
  · exact uniform_string value fun _ _ => ⟨rfl, rfl, fun _ => rfl⟩
  apply Uniform.ite
  · exact uniform_boolean value fun _ _ => ⟨rfl, rfl, id⟩
  apply Uniform.ite
  · exact uniform_boolean value fun _ _ => ⟨rfl, rfl, id⟩
  apply Uniform.ite
  · exact uniform_integer value fun _ _ => ⟨rfl, rfl, id⟩
  apply Uniform.ite
  · exact uniform_string value fun _ _ => ⟨rfl, rfl, id⟩
  exact uniform_some fun _ => ⟨rfl, rfl, id⟩

/-- The letters of a name do not matter for its type. -/
theorem wellTyped_matched {name : List UInt8} {literal : String}
    (matched : strcasecmp name literal = true)
    (whole : (ascii literal).takeWhile (· ≠ 0) = ascii literal) (value : JsonValue) :
    wellTyped (name, value) = wellTyped (ascii literal, value) := by
  unfold wellTyped
  simp only [strcasecmp_same matched whole]

/-- Nor do they matter for what is taken over. -/
theorem infoField_matched {name : List UInt8} {literal : String}
    (matched : strcasecmp name literal = true)
    (whole : (ascii literal).takeWhile (· ≠ 0) = ascii literal) (nc : NatsConnection)
    (value : JsonValue) : infoField nc name value = infoField nc (ascii literal) value := by
  unfold infoField
  simp only [strcasecmp_same matched whole]

/-- No name that is looked for has a zero in it. -/
theorem infoNames_whole : ∀ literal ∈ infoNames,
    (ascii literal).takeWhile (· ≠ 0) = ascii literal := by
  decide

/-- A name matches one of those that are looked for, or none of them. -/
theorem infoNames_cases (name : List UInt8) :
    (∃ literal ∈ infoNames, strcasecmp name literal = true) ∨
      ∀ literal ∈ infoNames, strcasecmp name literal = false := by
  by_cases named : ∃ literal ∈ infoNames, strcasecmp name literal = true
  · exact .inl named
  · exact .inr fun literal listed =>
      Bool.eq_false_iff.mpr fun matched => named ⟨literal, listed, matched⟩

/-- A field of another name changes nothing. -/
theorem infoField_other {name : List UInt8}
    (others : ∀ literal ∈ infoNames, strcasecmp name literal = false) (nc : NatsConnection)
    (value : JsonValue) : infoField nc name value = some nc := by
  unfold infoNames infoTypes at others
  simp only [List.map_cons, List.map_nil, List.forall_mem_cons] at others
  obtain ⟨id, host, port, version, auth, ssl, payload, go, -⟩ := others
  unfold infoField
  simp only [id, host, port, version, auth, ssl, payload, go, Bool.false_eq_true, ↓reduceIte]

/-- A field is taken over, on every connection, exactly when it has a value of its type. -/
theorem infoField_isSome (nc : NatsConnection) (name : List UInt8) (value : JsonValue) :
    (infoField nc name value).isSome = wellTyped (name, value) := by
  rcases infoNames_cases name with ⟨literal, listed, matched⟩ | others
  · have each : ∀ literal ∈ infoNames,
        (infoField nc (ascii literal) value).isSome = wellTyped (ascii literal, value) := by
      unfold infoNames infoTypes
      simp only [List.map_cons, List.map_nil, List.forall_mem_cons]
      cases value with
      | _ => exact ⟨rfl, rfl, rfl, rfl, rfl, rfl, rfl, rfl, List.forall_mem_nil _⟩
    have whole := infoNames_whole literal listed
    rw [infoField_matched matched whole, wellTyped_matched matched whole]
    exact each literal listed
  · rw [infoField_other others]
    symm
    apply List.all_eq_true.mpr
    intro entry inside
    rw [others entry.1 (List.mem_map_of_mem inside)]
    rfl

/-- Taking over a field. -/
theorem infoField_keeps {nc nc' : NatsConnection} {name : List UInt8} {value : JsonValue}
    (taken : infoField nc name value = some nc') : Kept nc nc' := by
  rcases infoField_uniform name value with refused | ⟨change, takes, kept⟩
  · rw [refused] at taken
    cases taken
  · rw [takes] at taken
    cases taken
    exact kept nc

/-- Taking over the version sets it. -/
theorem infoField_version {nc nc' : NatsConnection} {name : List UInt8} {value : JsonValue}
    (taken : infoField nc name value = some nc') (named : strcasecmp name "version" = true) :
    nc'.srvVersion.isSome := by
  have id : strcasecmp name "server_id" = false := strcasecmp_other named (by decide)
  have host : strcasecmp name "host" = false := strcasecmp_other named (by decide)
  have port : strcasecmp name "port" = false := strcasecmp_other named (by decide)
  simp only [infoField, id, host, port, named, Bool.false_eq_true, ↓reduceIte] at taken
  split at taken
  · cases taken
    rfl
  · cases taken

/-- Taking over fields. -/
theorem infoFields_keeps (nc : NatsConnection) (fields : List (List UInt8 × JsonValue)) :
    Kept nc (infoFields nc fields).1 := by
  induction fields generalizing nc with
  | nil => exact ⟨rfl, rfl, id⟩
  | cons field rest ih =>
    unfold infoFields
    cases taken : infoField nc field.1 field.2 with
    | none => exact ⟨rfl, rfl, id⟩
    | some next =>
      have first := infoField_keeps taken
      have others := ih next
      exact ⟨others.state.trans first.state, others.connection.trans first.connection,
        others.version ∘ first.version⟩

/-- All fields are taken over when each has a value of its type. -/
theorem infoFields_complete {fields : List (List UInt8 × JsonValue)}
    (typed : ∀ field ∈ fields, wellTyped field = true) (nc : NatsConnection) :
    (infoFields nc fields).2 = true := by
  induction fields generalizing nc with
  | nil => rfl
  | cons field rest ih =>
    have here := infoField_isSome nc field.1 field.2
    rw [typed field List.mem_cons_self] at here
    obtain ⟨next, taken⟩ := Option.isSome_iff_exists.mp here
    simp only [infoFields, taken]
    exact ih (fun other inside => typed other (List.mem_cons_of_mem field inside)) next

/-- Fields that are all taken over and name a version leave a version. -/
theorem infoFields_version {fields : List (List UInt8 × JsonValue)}
    (typed : ∀ field ∈ fields, wellTyped field = true)
    (named : ∃ field ∈ fields, strcasecmp field.1 "version" = true) (nc : NatsConnection) :
    (infoFields nc fields).1.srvVersion.isSome := by
  induction fields generalizing nc with
  | nil =>
    obtain ⟨field, inside, -⟩ := named
    cases inside
  | cons field rest ih =>
    have here := infoField_isSome nc field.1 field.2
    rw [typed field List.mem_cons_self] at here
    obtain ⟨next, taken⟩ := Option.isSome_iff_exists.mp here
    simp only [infoFields, taken]
    obtain ⟨found, inside, version⟩ := named
    rcases List.mem_cons.mp inside with rfl | later
    · exact (infoFields_keeps next rest).version (infoField_version taken version)
    · exact ih (fun other inside => typed other (List.mem_cons_of_mem field inside))
        ⟨found, later, version⟩ next

/-- The connection structure with another nginx connection, ping timer and state. -/
def NatsConnection.rewired (nc : NatsConnection) (connection : Option Connection)
    (pingTimer : Option Nat) (state : ConnState) : NatsConnection :=
  { nc with connection := connection, pingTimer := pingTimer, state := state }

/-- What is taken over does not depend on the nginx connection, the ping timer and the state. -/
def Independent (take : NatsConnection → Option NatsConnection) : Prop :=
  ∀ nc connection pingTimer state, take (nc.rewired connection pingTimer state) =
    (take nc).map (·.rewired connection pingTimer state)

/-- A refusal looks at no part of the connection. -/
theorem independent_none : Independent fun _ => none := fun _ _ _ _ => rfl

/-- A choice that does not look at the connection. -/
theorem Independent.ite {condition : Prop} [Decidable condition]
    {yes no : NatsConnection → Option NatsConnection} (first : Independent yes)
    (second : Independent no) : Independent fun nc => if condition then yes nc else no nc := by
  by_cases met : condition
  · simpa only [if_pos met] using first
  · simpa only [if_neg met] using second

/-- A field that takes a text. -/
theorem independent_string (value : JsonValue)
    {change : List UInt8 → NatsConnection → NatsConnection}
    (same : ∀ vstr, Independent fun nc => some (change vstr nc)) :
    Independent fun nc => match value with
      | .string vstr => some (change vstr nc)
      | _ => none := by
  cases value with
  | string vstr => exact same vstr
  | _ => exact independent_none

/-- A field that takes a number. -/
theorem independent_integer (value : JsonValue) {change : Int → NatsConnection → NatsConnection}
    (same : ∀ vint, Independent fun nc => some (change vint nc)) :
    Independent fun nc => match value with
      | .integer vint => some (change vint nc)
      | _ => none := by
  cases value with
  | integer vint => exact same vint
  | _ => exact independent_none

/-- A field that takes a truth value. -/
theorem independent_boolean (value : JsonValue) {change : Int → NatsConnection → NatsConnection}
    (same : ∀ vint, Independent fun nc => some (change vint nc)) :
    Independent fun nc => match value with
      | .boolean vint => some (change vint nc)
      | _ => none := by
  cases value with
  | boolean vint => exact same vint
  | _ => exact independent_none

/-- A field is taken over whatever the nginx connection, the ping timer and the state are. -/
theorem infoField_independent (name : List UInt8) (value : JsonValue) :
    Independent fun nc => infoField nc name value := by
  unfold infoField
  apply Independent.ite
  · exact independent_string value fun _ _ _ _ _ => rfl
  apply Independent.ite
  · exact independent_string value fun _ _ _ _ _ => rfl
  apply Independent.ite
  · exact independent_integer value fun _ _ _ _ _ => rfl
  apply Independent.ite
  · exact independent_string value fun _ _ _ _ _ => rfl
  apply Independent.ite
  · exact independent_boolean value fun _ _ _ _ _ => rfl
  apply Independent.ite
  · exact independent_boolean value fun _ _ _ _ _ => rfl
  apply Independent.ite
  · exact independent_integer value fun _ _ _ _ _ => rfl
  apply Independent.ite
  · exact independent_string value fun _ _ _ _ _ => rfl
  exact fun _ _ _ _ => rfl

/-- So are all fields. -/
theorem infoFields_rewired (nc : NatsConnection) (connection : Option Connection)
    (pingTimer : Option Nat) (state : ConnState) (fields : List (List UInt8 × JsonValue)) :
    infoFields (nc.rewired connection pingTimer state) fields =
      ((infoFields nc fields).1.rewired connection pingTimer state, (infoFields nc fields).2) := by
  induction fields generalizing nc with
  | nil => rfl
  | cons field rest ih =>
    have same := infoField_independent field.1 field.2 nc connection pingTimer state
    dsimp only at same
    unfold infoFields
    rw [same]
    cases infoField nc field.1 field.2 with
    | none => rfl
    | some next => exact ih next

/-- The fields of an INFO message do not touch the ping timer. -/
theorem infoFields_pingTimer (nc : NatsConnection) (fields : List (List UInt8 × JsonValue)) :
    (infoFields nc fields).1.pingTimer = nc.pingTimer :=
  congrArg (·.1.pingTimer) (infoFields_rewired nc nc.connection nc.pingTimer nc.state fields)

end NgxNats
