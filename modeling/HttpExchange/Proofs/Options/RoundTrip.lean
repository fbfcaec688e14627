import HttpExchange.Proofs.Http.Method
import HttpExchange.Proofs.Options.Reading

/-!
# Methods and options are read back
-/

namespace HttpExchange

open Json Json.Grammar Json.Read

namespace Json

/-! ### Printed objects -/

theorem scalar_quote (s : String) : Scalar (Utf8.encodeChars (quote s)) (.string s) := by
  have scalar := Scalar.string (literal_escape s.toList)
  rwa [String.ofList_toList, ← encodeChars_quote] at scalar

theorem scalar_bool (b : Bool) : Scalar (Utf8.encodeChars (Value.bool b).spelling) (.bool b) := by
  cases b with
  | false => exact .false
  | true => exact .true

theorem entry_spellMember {member : String × Value}
    (text : Text (Utf8.encodeChars member.2.spelling)) :
    Entry (Utf8.encodeChars (spellMember member))
      (member.1, Utf8.encodeChars member.2.spelling) := by
  have entry := Entry.intro (literal_escape member.1.toList) blanks_nil blanks_nil text
  have colon : Utf8.encodeChar ':' = [0x3A] := rfl
  rw [String.ofList_toList] at entry
  simpa [spellMember, encodeChars_quote, colon] using entry

/-- The text of an object is an object of its members. -/
theorem objectText_text {members : List (String × Value)}
    (each : ∀ member ∈ members, Text (Utf8.encodeChars member.2.spelling)) :
    ObjectText (Utf8.encode (Value.object members).text)
      (members.map fun member => (member.1, Utf8.encodeChars member.2.spelling)) := by
  have listed : Listed (fun octets member =>
      Entry octets (member.1, Utf8.encodeChars member.2.spelling)) _ members :=
    listed_commas fun member own => entry_spellMember (each member own)
  have object := ObjectText.intro blanks_nil (listed.map _ fun _ _ entry => entry) blanks_nil
  have opening : Utf8.encodeChar '\x7b' = [0x7B] := rfl
  have closing : Utf8.encodeChar '\x7d' = [0x7D] := rfl
  rw [Value.text_eq, Utf8.encode, String.toList_ofList]
  simpa [Value.spelling, spellMembers_eq, opening, closing] using object

end Json

/-! ### Methods -/

/-- A method that is made from its own name is read back from its JSON text. -/
theorem Method.parse_text {method : Method} (known : ofName method.name = method) :
    parse (Utf8.encode method.toJson.text) = .ok method := by
  have taken := RequestOptions.takes_method.complete blanks_nil
    ⟨_, scalar_quote method.name, known⟩ []
  rw [List.nil_append, List.append_nil] at taken
  rw [parse, whole_eq_ok_iff, toJson, Value.text_eq, Utf8.encode, String.toList_ofList,
    Value.spelling]
  exact ⟨[], blanks_nil, taken⟩

namespace RequestOptions

/-! ### Options -/

/-- The fields of options as members of an object. -/
def members (options : RequestOptions) : List (String × Value) :=
  [("response_kind", .string options.kind.name), ("method", .string options.method.name),
    ("report_upload_progress", .bool options.progress)]

theorem text_eq (options : RequestOptions) :
    options.text = (Value.object options.members).text := by
  have kind : "\x7b\"response_kind\":".toList = '\x7b' :: (quote "response_kind" ++ [':']) := rfl
  have method : ",\"method\":".toList = ',' :: (quote "method" ++ [':']) := rfl
  have progress : ",\"report_upload_progress\":".toList =
      ',' :: (quote "report_upload_progress" ++ [':']) := rfl
  have closing : "\x7d".toList = ['\x7d'] := rfl
  have string : ∀ s, (Value.string s).spelling = quote s := fun _ => rfl
  have object : ∀ members, (Value.object members).spelling =
      '\x7b' :: Value.spellMembers true members ++ ['\x7d'] := fun _ => rfl
  unfold text
  rw [← String.toList_inj]
  simp only [quoted, Value.text_eq, String.toList_append, String.toList_ofList, kind, method,
    progress, closing, members, object, Value.spellMembers, string, if_true, Bool.false_eq_true,
    if_false, List.append_assoc, List.cons_append, List.nil_append, List.append_nil]

/-- Options whose method is made from its own name are read back from their text. -/
theorem parse_text {options : RequestOptions}
    (known : Method.ofName options.method.name = options.method) :
    parse (Utf8.encode options.text) = .ok options := by
  have each : ∀ member ∈ options.members, Text (Utf8.encodeChars member.2.spelling) := by
    simp only [members, List.forall_mem_cons]
    exact ⟨text_of_scalar (scalar_quote _), text_of_scalar (scalar_quote _),
      text_of_scalar (scalar_bool _), List.forall_mem_nil _⟩
  rw [text_eq, parse_eq_ok_iff (objectText_text each)]
  refine ⟨[.kind options.kind, .method options.method.name, .progress options.progress],
    ⟨?_, ?_⟩, ?_⟩
  · change fieldNames.Nodup
    decide
  · exact .cons ⟨rfl, .name (scalar_quote _)⟩
      (.cons ⟨rfl, scalar_quote _⟩ (.cons ⟨rfl, scalar_bool _⟩ .nil))
  · change options = ⟨options.kind, Method.ofName options.method.name, options.progress⟩
    rw [known]

/-- Options that the calls of a builder make of the default ones, or that are read from a document,
be it an object or an array. -/
inductive Obtained : RequestOptions → Prop
  | default : Obtained default
  | called {options : RequestOptions} (call : Call) (obtained : Obtained options) :
      Obtained (call.apply options)
  | parsed {document : Bytes} {options : RequestOptions} (read : parse document = .ok options) :
      Obtained options

theorem ofName_name_default : Method.ofName default.method.name = default.method :=
  Method.ofName_name .post (by decide)

theorem ofName_name_apply (call : Call) {options : RequestOptions}
    (known : Method.ofName options.method.name = options.method) :
    Method.ofName (call.apply options).method.name = (call.apply options).method := by
  cases call with
  | kind => exact known
  | method name => exact Method.ofName_name_ofName name
  | progress => exact known

theorem ofName_name_parse {document : Bytes} {options : RequestOptions}
    (read : parse document = .ok options) :
    Method.ofName options.method.name = options.method := by
  obtain ⟨_, -, read⟩ := whole_eq_ok_iff.1 read
  refine record_preserves (P := fun options => Method.ofName options.method.name = options.method)
    ?_ ofName_name_default read
  intro field member options input after rest known read
  simp only [fields, List.mem_cons, List.not_mem_nil, or_false] at member
  rcases member with rfl | rfl | rfl
  · obtain ⟨_, -, ⟨⟩⟩ := bind_eq_ok_iff.1 read
    exact known
  · obtain ⟨⟨method, _⟩, taken, ⟨⟩⟩ := bind_eq_ok_iff.1 read
    obtain ⟨⟨name, _⟩, -, ⟨⟩⟩ := bind_eq_ok_iff.1 taken
    exact Method.ofName_name_ofName name
  · obtain ⟨_, -, ⟨⟩⟩ := bind_eq_ok_iff.1 read
    exact known

/-- The method of obtained options is made from its own name again. -/
theorem Obtained.ofName_name {options : RequestOptions} (obtained : Obtained options) :
    Method.ofName options.method.name = options.method := by
  induction obtained with
  | default => exact ofName_name_default
  | called call _ ih => exact ofName_name_apply call ih
  | parsed read => exact ofName_name_parse read

/-- A name means a standard method up to the case of letters and else a method of its own; methods
that are made from names, and options that are obtained, are read back from their text. -/
theorem survive_json :
    (∀ name,
      (∀ method ∈ Method.standard,
        Method.ofName name = method ↔ Ascii.SameButCase name method.name) ∧
      ((∀ method ∈ Method.standard, ¬ Ascii.SameButCase name method.name) →
        Method.ofName name = .other name) ∧
      Method.ofName (Method.ofName name).name = Method.ofName name ∧
      Method.parse (Utf8.encode (Method.ofName name).toJson.text) = .ok (Method.ofName name)) ∧
    ∀ options, Obtained options → parse (Utf8.encode options.text) = .ok options := by
  refine ⟨fun name => ⟨fun method member => Method.ofName_eq_iff member name, ?_,
    Method.ofName_name_ofName name, Method.parse_text (Method.ofName_name_ofName name)⟩,
    fun options obtained => parse_text obtained.ofName_name⟩
  intro different
  rcases Method.ofName_cases name with ⟨method, member, same, -⟩ | ⟨-, meant⟩
  · exact absurd same (different method member)
  · exact meant

/-- A method with quotes, a backslash, control characters and a letter that is not ASCII. -/
theorem survives_odd_method :
    let options := withMethod "\"\\\n\x00é" default
    Obtained options ∧ parse (Utf8.encode options.text) = .ok options := by
  intro options
  have obtained : Obtained options := .called (.method _) .default
  exact ⟨obtained, survive_json.2 options obtained⟩

end RequestOptions
end HttpExchange
