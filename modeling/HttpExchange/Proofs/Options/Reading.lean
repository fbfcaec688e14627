import HttpExchange.Options
import HttpExchange.Proofs.Json.Printing
import HttpExchange.Proofs.Json.Record
import Mathlib.Data.List.Perm.Basic

/-!
# Options are read as they are built

Neither the order of the members nor members of other names count (`reads_like_builder`).
-/

namespace HttpExchange
namespace RequestOptions

open Json Json.Grammar Json.Read

/-! ### Builders -/

/-- A call of a builder. -/
inductive Call where
  /-- Set how the response body is understood. -/
  | kind (kind : BodyKind)
  /-- Set the method by its name. -/
  | method (name : String)
  /-- Set whether upload progress is reported. -/
  | progress (enabled : Bool)

namespace Call

/-- Make a call. -/
def apply : Call → RequestOptions → RequestOptions
  | .kind wanted => withKind wanted
  | .method name => withMethod name
  | .progress enabled => withProgress enabled

/-- The name of the field that a call sets. -/
def field : Call → String
  | .kind _ => "response_kind"
  | .method _ => "method"
  | .progress _ => "report_upload_progress"

/-- The octets write the argument of a call. -/
def Argument : Call → Bytes → Prop
  | .kind wanted, octets => Variant octets wanted.name
  | .method name, octets => Scalar octets (.string name)
  | .progress enabled, octets => Scalar octets (.bool enabled)

/-- A member of an object says what a call does: it is named like the field, and its value writes
the argument. -/
def Written (member : String × Bytes) (call : Call) : Prop :=
  member.1 = call.field ∧ call.Argument member.2

/-- Calls for different fields may change places. -/
theorem apply_comm {first second : Call} (different : first.field ≠ second.field)
    (options : RequestOptions) :
    second.apply (first.apply options) = first.apply (second.apply options) := by
  cases first <;> cases second <;> first | rfl | exact absurd rfl different

section

variable {raw : Bytes} {call : Call}

theorem written_kind_iff : Written ("response_kind", raw) call ↔
    ∃ wanted : BodyKind, Variant raw wanted.name ∧ call = .kind wanted := by
  cases call <;> simp [Written, field, Argument]

theorem written_method_iff : Written ("method", raw) call ↔
    ∃ name, Scalar raw (.string name) ∧ call = .method name := by
  cases call <;> simp [Written, field, Argument]

theorem written_progress_iff : Written ("report_upload_progress", raw) call ↔
    ∃ enabled, Scalar raw (.bool enabled) ∧ call = .progress enabled := by
  cases call <;> simp [Written, field, Argument]

end

theorem exists_iff {α : Type} {P : α → Prop} {f : α → Call} :
    (∃ call, ∃ argument, P argument ∧ call = f argument) ↔ ∃ argument, P argument :=
  ⟨fun ⟨_, argument, known, _⟩ => ⟨argument, known⟩,
    fun ⟨argument, known⟩ => ⟨_, argument, known, rfl⟩⟩

end Call

/-- The options that calls make of the default ones, one after another. -/
def build (calls : List Call) : RequestOptions :=
  applyAll Call.apply calls default

/-- Calls for different fields make the same options in any order. -/
theorem build_perm {calls order : List Call} (distinct : (calls.map Call.field).Nodup)
    (same : order.Perm calls) : build order = build calls := by
  refine (same.symm.foldl_eq' (fun first member second also options => ?_) default).symm
  by_cases equal : first.field = second.field
  · rw [List.inj_on_of_nodup_map distinct member also equal]
  · exact Call.apply_comm equal options

/-- What holds of the default options and is kept by each call holds of what the calls make. -/
theorem build_preserves {P : RequestOptions → Prop} {calls : List Call} (start : P default)
    (each : ∀ call ∈ calls, ∀ options, P options → P (call.apply options)) : P (build calls) :=
  List.foldlRecOn calls _ start fun options holds call member => each call member options holds

/-! ### Fields -/

/-- The names of the fields. -/
def fieldNames : List String :=
  ["response_kind", "method", "report_upload_progress"]

/-- The members that are named like a field. -/
def present (members : List (String × Bytes)) : List (String × Bytes) :=
  members.filter (·.1 ∈ fieldNames)

theorem lookup_table_eq_some_iff {name : String} {kind : BodyKind} :
    BodyKind.table.lookup name = some kind ↔ name = kind.name := by
  cases kind <;> grind [BodyKind.table, BodyKind.name]

theorem takes_method : Takes Method.read
    fun octets method => ∃ name, Scalar octets (.string name) ∧ Method.ofName name = method :=
  takes_string.map Method.ofName

/-- Each field reads the call that its value writes. -/
theorem reads_fields (size : Nat) : Reads fields Call.apply Call.Written size := by
  intro field member blanks raw rest options result blank text _ ends
  simp only [fields, List.mem_cons, List.not_mem_nil, or_false] at member
  rcases member with rfl | rfl | rfl
  · have depth : maximalDepth - 1 ≠ 0 := by decide
    simp only [bind_eq_ok_iff, (takes_variant BodyKind.table depth).eq_ok_iff blank text ends,
      Call.written_kind_iff]
    constructor
    · rintro ⟨_, ⟨kind, ⟨name, variant, known⟩, rfl⟩, ⟨⟩⟩
      obtain rfl := lookup_table_eq_some_iff.1 known
      exact ⟨_, ⟨kind, variant, rfl⟩, rfl⟩
    · rintro ⟨_, ⟨kind, variant, rfl⟩, rfl⟩
      exact ⟨_, ⟨kind, ⟨_, variant, lookup_table_eq_some_iff.2 rfl⟩, rfl⟩, rfl⟩
  · simp only [bind_eq_ok_iff, takes_method.eq_ok_iff blank text ends, Call.written_method_iff]
    constructor
    · rintro ⟨_, ⟨_, ⟨name, string, rfl⟩, rfl⟩, ⟨⟩⟩
      exact ⟨_, ⟨name, string, rfl⟩, rfl⟩
    · rintro ⟨_, ⟨name, string, rfl⟩, rfl⟩
      exact ⟨_, ⟨_, ⟨name, string, rfl⟩, rfl⟩, rfl⟩
  · simp only [bind_eq_ok_iff, takes_bool.eq_ok_iff blank text ends, Call.written_progress_iff]
    constructor
    · rintro ⟨_, ⟨enabled, bool, rfl⟩, ⟨⟩⟩
      exact ⟨_, ⟨enabled, bool, rfl⟩, rfl⟩
    · rintro ⟨_, ⟨enabled, bool, rfl⟩, rfl⟩
      exact ⟨_, ⟨enabled, bool, rfl⟩, rfl⟩

/-- Calls that the fields among members write, where no field occurs twice. -/
structure Calls (members : List (String × Bytes)) (calls : List Call) : Prop where
  /-- No field occurs twice. -/
  once : ((present members).map Prod.fst).Nodup
  /-- Each field that there is writes one call. -/
  written : List.Forall₂ Call.Written (present members) calls

/-- An object is read as what the calls make that its fields write. -/
theorem parse_eq_ok_iff {document : Bytes} {members : List (String × Bytes)}
    (object : ObjectText document members) {options : RequestOptions} :
    parse document = .ok options ↔ ∃ calls, Calls members calls ∧ options = build calls := by
  have reads : Reads ((fun _ => fields) (document.length + 1)) Call.apply Call.Written
      (document.length + 1) :=
    reads_fields _
  refine (whole_record_eq_ok_iff object reads "struct SendOptions" default).trans ?_
  exact ⟨fun ⟨once, calls, written, same⟩ => ⟨calls, ⟨once, written⟩, same⟩,
    fun ⟨calls, ⟨once, written⟩, same⟩ => ⟨once, calls, written, same⟩⟩

/-! ### Accepted objects -/

/-- No field occurs twice among the members, and each that there is has a value of its form. -/
structure Acceptable (members : List (String × Bytes)) : Prop where
  /-- No field occurs twice. -/
  once : ((present members).map Prod.fst).Nodup
  /-- A response kind is `json` or `raw`. -/
  kind : ∀ raw, ("response_kind", raw) ∈ members → Variant raw "json" ∨ Variant raw "raw"
  /-- A method is any string. -/
  method : ∀ raw, ("method", raw) ∈ members → ∃ name, Scalar raw (.string name)
  /-- Whether to report progress is a truth value. -/
  progress : ∀ raw, ("report_upload_progress", raw) ∈ members →
    ∃ enabled, Scalar raw (.bool enabled)

theorem exists_forall₂ {α β : Type} {R : α → β → Prop} {as : List α} :
    (∃ bs, List.Forall₂ R as bs) ↔ ∀ a ∈ as, ∃ b, R a b := by
  induction as with
  | nil => simp
  | cons a as ih =>
    simp only [List.forall₂_cons_left_iff, List.forall_mem_cons, ← ih]
    exact ⟨fun ⟨_, b, bs, here, others, _⟩ => ⟨⟨b, here⟩, bs, others⟩,
      fun ⟨⟨b, here⟩, bs, others⟩ => ⟨_, b, bs, here, others, rfl⟩⟩

theorem exists_variant_iff {raw : Bytes} :
    (∃ kind : BodyKind, Variant raw kind.name) ↔ Variant raw "json" ∨ Variant raw "raw" := by
  constructor
  · rintro ⟨_ | _, variant⟩
    · exact .inl variant
    · exact .inr variant
  · rintro (variant | variant)
    · exact ⟨.json, variant⟩
    · exact ⟨.raw, variant⟩

variable {members : List (String × Bytes)}

theorem mem_present {name : String} {raw : Bytes} (known : name ∈ fieldNames) :
    (name, raw) ∈ present members ↔ (name, raw) ∈ members := by
  rw [present, List.mem_filter, decide_eq_true_iff, and_iff_left known]

/-- The fields among the members write calls if they are acceptable, and only then. -/
theorem exists_calls_iff : (∃ calls, Calls members calls) ↔ Acceptable members := by
  have each : (∃ calls, List.Forall₂ Call.Written (present members) calls) ↔
      ∀ name ∈ fieldNames, ∀ raw, (name, raw) ∈ members →
        ∃ call, Call.Written (name, raw) call := by
    rw [exists_forall₂]
    constructor
    · exact fun all name known raw member => all _ ((mem_present known).2 member)
    · rintro all ⟨name, raw⟩ member
      have known := of_decide_eq_true (List.mem_filter.1 member).2
      exact all name known raw ((mem_present known).1 member)
  simp only [fieldNames, List.forall_mem_cons, Call.written_kind_iff, Call.written_method_iff,
    Call.written_progress_iff, Call.exists_iff, exists_variant_iff] at each
  constructor
  · rintro ⟨calls, once, written⟩
    obtain ⟨kind, method, progress, -⟩ := each.1 ⟨calls, written⟩
    exact ⟨once, kind, method, progress⟩
  · rintro ⟨once, kind, method, progress⟩
    obtain ⟨calls, written⟩ := each.2 ⟨kind, method, progress, List.forall_mem_nil _⟩
    exact ⟨calls, once, written⟩

/-! ### Independence -/

theorem Calls.map_field {calls : List Call} (made : Calls members calls) :
    calls.map Call.field = (present members).map Prod.fst := by
  obtain ⟨-, written⟩ := made
  generalize present members = own at written
  induction written with
  | nil => rfl
  | cons here _ ih => rw [List.map_cons, List.map_cons, ih, here.1]

/-- The calls may be made in any order. -/
theorem Calls.build_eq {calls order : List Call} (made : Calls members calls)
    (same : order.Perm calls) : build order = build calls :=
  build_perm (made.map_field ▸ made.once) same

/-- Members that have the same fields in another order write the same calls in another order. -/
theorem Calls.perm {others : List (String × Bytes)} {calls : List Call} (made : Calls members calls)
    (same : (present others).Perm (present members)) :
    ∃ order, order.Perm calls ∧ Calls others order := by
  obtain ⟨order, written, moved⟩ := List.perm_comp_forall₂ same made.written
  exact ⟨order, moved, (same.map Prod.fst).nodup_iff.2 made.once, written⟩

/-- No call is for a field that there is not. -/
theorem Calls.absent {calls : List Call} (made : Calls members calls) {name : String}
    (absent : ∀ raw, (name, raw) ∉ members) : ∀ call ∈ calls, call.field ≠ name := by
  rintro call member rfl
  have named := List.mem_map_of_mem (f := Call.field) member
  rw [made.map_field] at named
  obtain ⟨⟨_, raw⟩, own, rfl⟩ := List.mem_map.1 named
  exact absent raw (List.mem_of_mem_filter own)

/-- What only the calls for a field change stays as it is by default if there is no such field. -/
theorem Calls.default_of_absent {α : Type} {calls : List Call} (made : Calls members calls)
    {name : String} (absent : ∀ raw, (name, raw) ∉ members) (get : RequestOptions → α)
    (other : ∀ call : Call, call.field ≠ name → ∀ options, get (call.apply options) = get options) :
    get (build calls) = get default :=
  build_preserves (P := fun options => get options = get default) rfl
    fun call member options same => (other call (made.absent absent call member) options).trans same

/-- What becomes of an object with the given members. -/
structure ReadsLikeBuilder (document : Bytes) (members : List (String × Bytes)) : Prop where
  /-- It is accepted if no field occurs twice and each has a value of its form, and only then. -/
  accepted : (∃ options, parse document = .ok options) ↔ Acceptable members
  /-- The options are made by one call for each field that there is, in any order. -/
  built : ∀ options, parse document = .ok options → ∃ calls,
    List.Forall₂ Call.Written (present members) calls ∧
      ∀ order, order.Perm calls → build order = options
  /-- Each field that there is not keeps its own default. -/
  defaults : ∀ options, parse document = .ok options →
    ((∀ raw, ("response_kind", raw) ∉ members) → options.kind = .json) ∧
    ((∀ raw, ("method", raw) ∉ members) → options.method = .post) ∧
    ((∀ raw, ("report_upload_progress", raw) ∉ members) → options.progress = false)
  /-- Another object with the same fields in any order gives the same options, whatever its other
  members and its blanks are. -/
  alike : ∀ other others, ObjectText other others → (present others).Perm (present members) →
    ∀ options, parse other = .ok options ↔ parse document = .ok options

/-- An object is read as what a builder makes by the calls that its fields write. -/
theorem reads_like_builder {document : Bytes} (object : ObjectText document members) :
    ReadsLikeBuilder document members where
  accepted := by
    simp only [parse_eq_ok_iff object, ← exists_calls_iff]
    exact ⟨fun ⟨_, calls, made, _⟩ => ⟨calls, made⟩, fun ⟨calls, made⟩ => ⟨_, calls, made, rfl⟩⟩
  built := by
    intro options read
    obtain ⟨calls, made, rfl⟩ := (parse_eq_ok_iff object).1 read
    exact ⟨calls, made.written, fun order same => made.build_eq same⟩
  defaults := by
    intro options read
    obtain ⟨calls, made, rfl⟩ := (parse_eq_ok_iff object).1 read
    refine ⟨fun absent => made.default_of_absent absent RequestOptions.kind ?_,
      fun absent => made.default_of_absent absent RequestOptions.method ?_,
      fun absent => made.default_of_absent absent RequestOptions.progress ?_⟩
    all_goals
      rintro (_ | _ | _) different options
      all_goals first | rfl | exact absurd rfl different
  alike := by
    intro other others also same options
    rw [parse_eq_ok_iff also, parse_eq_ok_iff object]
    constructor
    · rintro ⟨calls, made, rfl⟩
      obtain ⟨order, moved, made'⟩ := made.perm same.symm
      exact ⟨order, made', (made.build_eq moved).symm⟩
    · rintro ⟨calls, made, rfl⟩
      obtain ⟨order, moved, made'⟩ := made.perm same
      exact ⟨order, made', (made.build_eq moved).symm⟩

/-- A method by an escaped name, after a member that is ignored and whose number is out of range. -/
theorem reads_escaped_name :
    let members := [("other", Utf8.encode "1e999"), ("method", Utf8.encode "\"get\"")]
    let document := Utf8.encode "\x7b\"other\":1e999 ,\"\\u006dethod\":\"get\"\x7d"
    ObjectText document members ∧ ReadsLikeBuilder document members ∧
      parse document = .ok ⟨.json, .get, false⟩ := by
  intro members document
  have number : Text (Utf8.encode "1e999") := by
    have whole : Whole [0x31] :=
      .digits ⟨List.cons_ne_nil _ _, List.forall_mem_singleton.2 rfl⟩ (by decide)
    have power : Exponent (0x65 :: ([] ++ [0x39, 0x39, 0x39])) (some (false, [0x39, 0x39, 0x39])) :=
      .present (.inl rfl) .absent ⟨List.cons_ne_nil _ _, by simp [Ascii.isDigit]⟩
    rw [show Utf8.encode "1e999" = [0x31, 0x65, 0x39, 0x39, 0x39] by decide +kernel]
    exact ⟨0, .figures (.intro false whole .absent power)⟩
  have get : Text (Utf8.encode "\"get\"") := by
    have string := text_of_scalar (.string (literal_escape "get".toList))
    rwa [show Utf8.encode "\"get\"" = 0x22 :: (Utf8.encodeChars (escape "get".toList) ++ [0x22]) by
      decide +kernel]
  have letter : Escape (0x5C :: 0x75 :: [0x30, 0x30, 0x36, 0x64]) 'm' :=
    .unit (show CodeUnit [0x30, 0x30, 0x36, 0x64] 0x6D from ⟨rfl, by decide⟩) (.inl (by decide))
  have method := Literal.escape letter (literal_escape "ethod".toList)
  have blank : Blanks [0x20] := List.forall_mem_singleton.2 rfl
  have listed := Listed.some blanks_nil
    (Entry.intro (literal_escape "other".toList) blanks_nil blanks_nil number)
    (.more blank blanks_nil
      (Entry.intro method blanks_nil blanks_nil get) (.done blanks_nil))
  have object : ObjectText document members := by
    convert ObjectText.intro blanks_nil listed blanks_nil using 1 <;> decide +kernel
  exact ⟨object, reads_like_builder object, by decide +kernel⟩

end RequestOptions
end HttpExchange
