import TypeStencil.Proofs.Template.Views

/-!
Members whose parts are texts: fields and methods. Their printed lines are given directly by the
texts, and are shown to be those of their views.
-/
namespace TypeStencil

open Template Template.Packaged

/-- A text that may be left out, as a value. -/
def Value.ofText (t : Option String) : Value := t.elim .null .str

/-- Whether there is something in a text that may be left out. -/
def isGiven (t : Option String) : Bool := !(t.getD "").isEmpty

theorem Value.isPresent_ofText (t : Option String) : (Value.ofText t).isPresent = isGiven t := by
  cases t <;> rfl

theorem Value.text_ofText {t : Option String} (h : isGiven t = true) :
    (Value.ofText t).text = t.getD "" := by
  cases t with
  | none => cases h
  | some s => rfl

/-- A text that is put into something, where it is given. -/
theorem ite_text_ofText (t : Option String) (wrap : String → String) (other : String) :
    (if isGiven t then wrap (Value.ofText t).text else other) =
      if isGiven t then wrap (t.getD "") else other := by
  cases h : isGiven t with
  | true => rw [Value.text_ofText h]
  | false => rfl

theorem Value.ofText_eq_str {t : Option String} {s : String} :
    Value.ofText t = .str s ↔ t = some s := by
  cases t <;> simp [ofText]

theorem Value.lines_ofText (t : Option String) :
    (Value.ofText t).lines = .ok (Text.lines (t.getD "")) := by
  cases t with
  | none => rfl
  | some s =>
      show (if !!s.isEmpty then .ok [] else .ok (Text.lines s)) = Except.ok (Text.lines s)
      cases hs : s.isEmpty with
      | true =>
          rw [Text.lines, hs]
          rfl
      | false => rfl

/-- The comment block above a member that has a description. -/
def commentOf (description : Option String) : List String :=
  if isGiven description then comment (Text.lines (description.getD "")) else []

theorem ended_commentOf (description : Option String) :
    ended (commentOf description) = if isGiven description then
      ended (comment (Text.lines (description.getD ""))) else "" := by
  rw [commentOf, apply_ite ended, ended_nil]

/-- A field whose name, value and description are texts. -/
structure Field where
  name : String
  value : String
  required : Value
  isArray : Value
  description : Option String
  importLine : Option String

namespace Field

def descriptor (p : Field) : PropertyDescriptor where
  propertyName := .str p.name
  value := .str p.value
  required := p.required
  isArray := p.isArray
  description := .ofText p.description
  importName := .ofText p.importLine

def view (p : Field) : PropertyView where
  propertyName := .str p.name
  value := .str p.value
  required := p.required.isPresent
  isArray := p.isArray.isPresent
  hasDescription := isGiven p.description
  description := Text.lines (p.description.getD "")

theorem ofDescriptor_eq (p : Field) : PropertyView.ofDescriptor p.descriptor = .ok p.view := by
  rw [PropertyView.ofDescriptor, descriptor, Value.lines_ofText, ok_bind, Value.isPresent_ofText]
  rfl

/-- The line that declares a field. -/
def declaration (p : Field) : String :=
  p.name ++ (if p.required.isPresent then "" else "?") ++ ": " ++ p.value ++
    (if p.isArray.isPresent then "[]" else "") ++ ";"

/-- A field as it is printed. -/
def text (p : Field) : String :=
  Packaged.joinLines (commentOf p.description ++ [p.declaration])

/-- A field is printed as its view is. -/
theorem view_text (p : Field) : p.view.text = p.text := by
  rw [PropertyView.text, text, joinLines_append, ended_commentOf]
  rfl

theorem text_ne_empty (p : Field) : p.text ≠ "" :=
  p.view_text ▸ p.view.text_ne_empty

theorem render_text (p : Field) (indentSize : Value) :
    (TemplateEngine.packaged indentSize).render (.str propertyName) p.view.toContext = .ok p.text :=
  p.view_text ▸ p.view.render_text indentSize

end Field

/-- An operation whose names, parameters and description are texts. -/
structure Operation where
  name : String
  method : String
  route : String
  urlParameters : List String
  queryParameters : List String
  description : Option String
  parameterClass : Option String
  bodyClass : Option String
  sendsJson : Value
  responseClass : Option String
  receivesJson : Value
  intercepted : Value
  imports : List String

namespace Operation

def descriptor (o : Operation) : FunctionDescriptor where
  functionName := .str o.name
  httpMethod := .str o.method
  routePath := .str o.route
  urlParameters := .strings o.urlParameters
  queryParameters := .strings o.queryParameters
  description := .ofText o.description
  parameterClassName := .ofText o.parameterClass
  requestBodyClass := .ofText o.bodyClass
  isRequestBodyJson := o.sendsJson
  responseClass := .ofText o.responseClass
  isJsonResponse := o.receivesJson
  forceInterceptor := o.intercepted
  imports := .strings o.imports

def view (o : Operation) : FunctionView where
  functionName := .str o.name
  httpMethod := .str o.method
  routePath := .str o.route
  hasDescription := isGiven o.description
  description := Text.lines (o.description.getD "")
  hasUrlParameters := !o.urlParameters.isEmpty
  urlParameters := o.urlParameters.map .str
  hasParameter := isGiven o.parameterClass
  parameterClassName := .ofText o.parameterClass
  hasQueryParameters := !o.queryParameters.isEmpty
  queryParameters := o.queryParameters.map .str
  hasRequestBody := isGiven o.bodyClass
  isRequestBodyJson := isGiven o.bodyClass && o.sendsJson.isPresent
  requestBodyClass := .ofText o.bodyClass
  forceInterceptor := o.intercepted.isPresent
  hasResponse := isGiven o.responseClass
  isJsonResponse := isGiven o.responseClass && o.receivesJson.isPresent
  responseClass := .ofText o.responseClass

theorem listItems_strings (texts : List String) :
    FunctionView.listItems (.strings texts) = .ok (texts.map .str) := by
  cases texts <;> rfl

theorem ofDescriptor_eq (o : Operation) : FunctionView.ofDescriptor o.descriptor = .ok o.view := by
  simp only [FunctionView.ofDescriptor, descriptor, listItems_strings, Value.lines_ofText, ok_bind,
    Value.isPresent_ofText, List.isEmpty_map]
  rfl

/-- The line that a method begins with. -/
def signature (o : Operation) : String :=
  "public " ++ o.name ++ "(" ++
    String.join (o.urlParameters.map fun name => name ++ ": string, ") ++
    (if isGiven o.parameterClass then "parameters: " ++ o.parameterClass.getD "" ++ ", " else "") ++
    (if isGiven o.bodyClass then "body: " ++ o.bodyClass.getD "" ++ ", " else "") ++
    "interceptor?: RequestInterceptor): Promise<" ++
    (if isGiven o.responseClass then o.responseClass.getD "" else "void") ++ "> \x7b"

/-- What a path is followed by if there is a query. -/
def query (o : Operation) : String :=
  if o.queryParameters.isEmpty then ""
  else " + getQueryParameters(" ++
    (if isGiven o.parameterClass then "parameters" else "\x7b\x7d") ++ ", [" ++
    String.intercalate ", " (o.queryParameters.map fun name => "\"" ++ name ++ "\"") ++ "])"

/-- The line with the path of a request, whose placeholders are filled in. -/
def pathLine (o : Operation) : String :=
  "        path: \x60" ++ String.ofList (Filter.pathTemplateText o.route.toList) ++ "\x60" ++
    o.query ++ ","

/-- The lines about the body of a request. -/
def bodyLines (o : Operation) : List String :=
  if isGiven o.bodyClass then [
    "        body: " ++ (if o.sendsJson.isPresent then "JSON.stringify(body)" else "body") ++ ",",
    "        jsonBody: " ++ (if o.sendsJson.isPresent then "true" else "false") ++ ","]
  else []

/-- A method as it is printed. -/
def text (o : Operation) : String :=
  Packaged.joinLines (commentOf o.description ++ [
    o.signature,
    "    return http(\x7b",
    "        method: \"" ++ String.ofList (Text.upper o.method.toList) ++ "\",",
    o.pathLine] ++
    o.bodyLines ++ [
    "        jsonResponse: " ++
      (if isGiven o.responseClass && o.receivesJson.isPresent then "true" else "false") ++ ",",
    "        interceptor: " ++
      (if o.intercepted.isPresent then "interceptor || this.interceptor" else "interceptor") ++ ",",
    "        errorHandler: this.errorHandler,",
    "    \x7d);"] ++
    ["\x7d"])

theorem view_signature (o : Operation) : o.view.signature = o.signature := by
  have hnames : (o.view.urlParameters.map fun name => name.text ++ ": string, ") =
      o.urlParameters.map fun name => name ++ ": string, " := List.map_map
  have hparameter := ite_text_ofText o.parameterClass ("parameters: " ++ · ++ ", ") ""
  have hbody := ite_text_ofText o.bodyClass ("body: " ++ · ++ ", ") ""
  have hresponse := ite_text_ofText o.responseClass (·) "void"
  unfold FunctionView.signature signature
  rw [hnames, ← hparameter, ← hbody, ← hresponse]
  rfl

theorem view_pathLine (o : Operation) : o.view.pathLine = o.pathLine := by
  have hnames : (o.view.queryParameters.map fun name => "\"" ++ name.text ++ "\"") =
      o.queryParameters.map fun name => "\"" ++ name ++ "\"" := by
    simp only [view, List.map_map, Function.comp_def, Value.text, Scalar.text]
  have hflag : o.view.hasQueryParameters = !o.queryParameters.isEmpty := rfl
  have hunless (b : Bool) (s : String) : (if !b then s else "") = if b then "" else s := by
    cases b <;> rfl
  have hroute : o.view.routePath.text = o.route := rfl
  have hparameter : o.view.hasParameter = isGiven o.parameterClass := rfl
  unfold FunctionView.pathLine pathLine query
  rw [hnames, hflag, hroute, hparameter, hunless]

theorem view_bodyLines (o : Operation) : o.view.bodyLines = o.bodyLines := by
  have hflag : o.view.hasRequestBody = isGiven o.bodyClass := rfl
  have hjson : o.view.isRequestBodyJson = (isGiven o.bodyClass && o.sendsJson.isPresent) := rfl
  rw [FunctionView.bodyLines, hflag, hjson, bodyLines]
  cases isGiven o.bodyClass <;> rfl

/-- An operation is printed as its view is. -/
theorem view_text (o : Operation) : o.view.text = o.text := by
  have hcomment : commentIf o.view.hasDescription o.view.description =
      ended (commentOf o.description) := (ended_commentOf _).symm
  unfold FunctionView.text FunctionView.declaration text
  rw [view_signature, view_pathLine, view_bodyLines, hcomment]
  simp only [joinLines_append, ended_append, String.append_assoc]
  rfl

theorem render_text (o : Operation) (indentSize : Value) :
    (TemplateEngine.packaged indentSize).render (.str functionName) o.view.toContext = .ok o.text :=
  o.view_text ▸ o.view.render_text indentSize

/-- The packaged template prints every operation as a method, whatever the size of an indentation
is. -/
theorem prints_method (o : Operation) (indentSize : Value) :
    ∃ v, FunctionView.ofDescriptor o.descriptor = .ok v ∧
      (TemplateEngine.packaged indentSize).render (.str functionName) v.toContext = .ok o.text :=
  ⟨o.view, o.ofDescriptor_eq, o.render_text indentSize⟩

example :
    (Operation.mk "find" "get" "/users/\x7bid\x7d" ["id"] ["page", "size"] none none none .null
      (some "User") (.bool true) .null []).text =
    joinLines [
      "public find(id: string, interceptor?: RequestInterceptor): Promise<User> \x7b",
      "    return http(\x7b",
      "        method: \"GET\",",
      "        path: \x60/users/$\x7bid\x7d\x60 + getQueryParameters(\x7b\x7d, [\"page\", \"size\"]),",
      "        jsonResponse: true,",
      "        interceptor: interceptor,",
      "        errorHandler: this.errorHandler,",
      "    \x7d);",
      "\x7d"] := by
  decide +kernel

end Operation

end TypeStencil
