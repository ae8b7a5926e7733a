import TypeStencil.Proofs.Sequencing
import TypeStencil.Proofs.Template.Trees
import TypeStencil.Template.Engine

/-!
What the nodes of the packaged templates write. A text, a name, a choice, a condition and a loop
each write one text, and nodes in a row write their texts in a row.
-/
namespace TypeStencil.Template

theorem ended_nil : ended [] = "" := by
  rw [ended, List.map_nil, String.join_nil]

theorem ended_cons (line : String) (rest : List String) :
    ended (line :: rest) = line ++ ("\n" ++ ended rest) := by
  rw [ended, List.map_cons, String.join_cons, String.append_assoc, ended]

theorem ended_append (a b : List String) : ended (a ++ b) = ended a ++ ended b := by
  rw [ended, List.map_append, String.join_append, ended, ended]

theorem joinLines_append (lines : List String) (last : String) :
    Packaged.joinLines (lines ++ [last]) = ended lines ++ last := by
  induction lines with
  | nil =>
      rw [List.nil_append, ended_nil, String.empty_append, Packaged.joinLines,
        String.intercalate_singleton]
  | cons line rest ih =>
      rw [Packaged.joinLines] at ih ⊢
      rw [List.cons_append, String.intercalate_cons_of_ne_nil (by simp), ih, ended_cons,
        String.append_assoc, String.append_assoc, String.append_assoc]

namespace Scope

variable {scope : Scope} {d : Datum} {m n : String}

theorem lookup_cons_self : lookup ((n, d) :: scope) n = d := by
  rw [lookup, List.lookup_cons, BEq.rfl, Option.getD_some]

theorem lookup_cons_ne (h : n ≠ m) : lookup ((m, d) :: scope) n = scope.lookup n := by
  rw [lookup, lookup, List.lookup_cons, beq_eq_false_iff_ne.mpr h]

theorem lookup_ofContext {context : List (String × Value)} {v : Value}
    (h : context.lookup n = some v) : (ofContext context).lookup n = .value v := by
  have hfound : List.lookup n (ofContext context) = some (.value v) := by
    induction context with
    | nil => cases h
    | cons e rest ih =>
        rw [List.lookup_cons] at h
        rw [ofContext, List.map_cons, List.lookup_cons]
        cases hn : n == e.1 with
        | true =>
            rw [hn] at h
            cases h
            rfl
        | false =>
            rw [hn] at h
            exact ih h
  rw [lookup, hfound, Option.getD_some]

end Scope

/-- A node writes a text, where names stand for what a scope says. -/
def Node.Writes (f : Frame) (scope : Scope) (node : Node) (text : String) : Prop :=
  node.render f scope = .ok text.toList

/-- Nodes in a row write a text. -/
def Writes (f : Frame) (scope : Scope) (nodes : List Node) (text : String) : Prop :=
  renderAll f scope nodes = .ok text.toList

/-- Nodes in a row cannot be written. -/
def Fails (f : Frame) (scope : Scope) (nodes : List Node) (cause : Fault) : Prop :=
  renderAll f scope nodes = .error cause

section

variable {f : Frame} {scope : Scope} {s t : String}

theorem writes_nil : Writes f scope [] "" := rfl

theorem Writes.cons {node : Node} {rest : List Node} (h : node.Writes f scope s)
    (hrest : Writes f scope rest t) : Writes f scope (node :: rest) (s ++ t) := by
  rw [Node.Writes] at h
  rw [Writes] at hrest ⊢
  rw [renderAll, h, ok_bind, hrest, ok_bind, String.toList_append]
  rfl

theorem Fails.first {node : Node} {rest : List Node} {cause : Fault}
    (h : node.render f scope = .error cause) : Fails f scope (node :: rest) cause := by
  rw [Fails, renderAll, h, error_bind]

theorem Fails.after {node : Node} {rest : List Node} {cause : Fault} (h : node.Writes f scope s)
    (hrest : Fails f scope rest cause) : Fails f scope (node :: rest) cause := by
  rw [Node.Writes] at h
  rw [Fails] at hrest ⊢
  rw [renderAll, h, ok_bind, hrest, error_bind]

theorem Writes.of_eq {nodes : List Node} (h : Writes f scope nodes s) (heq : t = s) :
    Writes f scope nodes t := heq ▸ h

theorem Node.writes_print {e : Expr} {d : Datum} (h : e.evalIn f scope = .ok d)
    (htext : d.text = .ok s) : (Node.print e).Writes f scope s := by
  rw [Writes, render, h, ok_bind, htext, ok_bind]
  rfl

theorem renderTree_of_writes {context : List (String × Value)} {nodes : List Node}
    (hself : Program.namesItself nodes = false)
    (h : Writes f (Scope.ofContext context) nodes s) : renderTree f context nodes = .ok s := by
  rw [Writes] at h
  rw [renderTree, Scope.ofTemplate, hself]
  simp only [Bool.false_eq_true, if_false, h, ok_bind]
  exact congrArg Except.ok String.ofList_toList

theorem renderTree_of_fails {context : List (String × Value)} {nodes : List Node} {cause : Fault}
    (hself : Program.namesItself nodes = false)
    (h : Fails f (Scope.ofContext context) nodes cause) :
    renderTree f context nodes = .error cause := by
  rw [Fails] at h
  rw [renderTree, Scope.ofTemplate, hself]
  simp only [Bool.false_eq_true, if_false, h, error_bind]

end

section

variable {α : Type} {body : Nat → Datum → Except Fault (List Char)} {make : α → Datum}
  {text : α → String} {xs : List α}

theorem eachItem_join (index : Nat) (h : ∀ i, ∀ x ∈ xs, body i (make x) = .ok (text x).toList) :
    eachItem body index (xs.map make) = .ok (String.join (xs.map text)).toList := by
  induction xs generalizing index with
  | nil => rfl
  | cons x rest ih =>
      have hrest := ih (index + 1) fun i y hy => h i y (List.mem_cons_of_mem x hy)
      rw [List.map_cons, eachItem, h index x List.mem_cons_self, ok_bind, hrest, ok_bind,
        List.map_cons, String.join_cons, String.toList_append]
      rfl

/-- A body that ends in a separator but for the last item. -/
theorem eachItem_intercalate {separator : String} (last index : Nat)
    (hlast : index + xs.length = last + 1)
    (h : ∀ i, ∀ x ∈ xs, body i (make x) =
      .ok (text x ++ if i = last then "" else separator).toList) :
    eachItem body index (xs.map make) =
      .ok (String.intercalate separator (xs.map text)).toList := by
  induction xs generalizing index with
  | nil => rfl
  | cons x rest ih =>
      have hrest := ih (index + 1) (by rw [List.length_cons] at hlast; omega)
        fun i y hy => h i y (List.mem_cons_of_mem x hy)
      rw [List.map_cons, eachItem, h index x List.mem_cons_self, ok_bind, hrest, ok_bind]
      cases rest with
      | nil =>
          have heq : index = last := by simpa using hlast
          rw [if_pos heq]
          simp [pure, Except.pure]
      | cons y rest =>
          have hne : index ≠ last := by
            simp only [List.length_cons] at hlast
            omega
          rw [if_neg hne, List.map_cons, List.map_cons, List.map_cons,
            String.intercalate_cons_cons]
          simp [pure, Except.pure]

end

namespace Packaged

section

variable {f : Frame} {scope : Scope} {n flag yes no : String} {v : Value} {b : Bool}

theorem evalIn_name {d : Datum} (h : scope.lookup n = d) :
    (Expr.name n).evalIn f scope = .ok d := by
  rw [← h, Expr.evalIn, Expr.eval]
  rfl

theorem writes_lit (s : String) : (lit s).Writes f scope s := rfl

theorem writes_name (h : scope.lookup n = .value v) : (write n).Writes f scope v.text :=
  Node.writes_print (evalIn_name h) rfl

theorem evalIn_choice {c yes no : Expr} (h : c.evalIn f scope = .ok (.value (.bool b))) :
    (Expr.choice c yes no).evalIn f scope =
      if b then yes.evalIn f scope else no.evalIn f scope := by
  rw [Expr.evalIn] at h
  rw [Expr.evalIn, Expr.eval, h, ok_bind]
  rfl

theorem writes_choice {c : Expr} (h : c.evalIn f scope = .ok (.value (.bool b))) :
    (Node.print (.choice c (.const (.str yes)) (.const (.str no)))).Writes f scope
      (if b then yes else no) := by
  refine Node.writes_print (d := .value (.str (if b then yes else no))) ?_ rfl
  rw [evalIn_choice h]
  cases b <;> rfl

theorem writes_pick (h : scope.lookup flag = .value (.bool b)) :
    (pick flag yes no).Writes f scope (if b then yes else no) :=
  writes_choice (evalIn_name h)

theorem writes_onlyIf {body : List Node} {text : String} (h : scope.lookup flag = .value (.bool b))
    (hbody : b = true → Writes f scope body text) :
    (onlyIf flag body).Writes f scope (if b then text else "") := by
  rw [Node.Writes, onlyIf, Node.render, evalIn_name h, ok_bind, Datum.isPresent, ok_bind]
  cases b with
  | true => exact hbody rfl
  | false => rfl

theorem onlyIf_fails {body : List Node} {cause : Fault}
    (h : scope.lookup flag = .value (.bool true)) (hbody : Fails f scope body cause) :
    (onlyIf flag body).render f scope = .error cause := by
  rw [onlyIf, Node.render, evalIn_name h, ok_bind, Datum.isPresent, ok_bind]
  exact hbody

section

variable {α : Type} (make : α → Value) {text : α → String} {xs : List α} {x source : String}
  {body : List Node}

/-- What a loop over some items writes is what its body writes for each item. -/
theorem render_each (h : scope.lookup source = .value (.list (xs.map make))) :
    (each x source body).render f scope = eachItem (fun index d => renderAll f
      ((x, d) :: ("loop", .loop index (xs.map fun y => .value (make y))) :: scope) body) 1
      (xs.map fun y => .value (make y)) := by
  have hitems : Datum.items (.value (.list (xs.map make))) =
      .ok (xs.map fun y => .value (make y)) := congrArg Except.ok List.map_map
  rw [each, Node.render, evalIn_name h, ok_bind, hitems, ok_bind]
  cases xs <;> rfl

theorem writes_each (h : scope.lookup source = .value (.list (xs.map make)))
    (hbody : ∀ state, ∀ y ∈ xs,
      Writes f ((x, .value (make y)) :: ("loop", state) :: scope) body (text y)) :
    (each x source body).Writes f scope (String.join (xs.map text)) := by
  rw [Node.Writes, render_each make h]
  exact eachItem_join 1 fun i y hy => hbody _ y hy

/-- A loop whose body fails for the first item. -/
theorem each_fails {y : α} {cause : Fault}
    (h : scope.lookup source = .value (.list ((y :: xs).map make)))
    (hbody : ∀ state,
      Fails f ((x, .value (make y)) :: ("loop", state) :: scope) body cause) :
    (each x source body).render f scope = .error cause := by
  have hfirst := hbody (.loop 1 (.value (make y) :: xs.map fun z => .value (make z)))
  rw [Fails] at hfirst
  rw [render_each make h, List.map_cons, eachItem, hfirst, error_bind]

/-- A loop with a separator between its items. -/
theorem writes_each_separated {separator : String}
    (h : scope.lookup source = .value (.list (xs.map make)))
    (hbody : ∀ index, ∀ items : List Datum, ∀ y ∈ xs,
      Writes f ((x, .value (make y)) :: ("loop", .loop index items) :: scope) body
        (text y ++ if index = items.length then "" else separator)) :
    (each x source body).Writes f scope (String.intercalate separator (xs.map text)) := by
  rw [Node.Writes, render_each make h]
  refine eachItem_intercalate xs.length 1 (Nat.add_comm _ _) fun i y hy => ?_
  have hy := hbody i (xs.map fun y => .value (make y)) y hy
  rwa [List.length_map] at hy

end

/-- A filter without an option, applied to a value. -/
theorem writes_filtered (filter : Filter) {e : Expr} {s : String}
    (h : e.evalIn f scope = .ok (.value v))
    (hrun : filter.run f.indentSize (.value v) none = .ok s) :
    (Node.print (.filtered e filter.name [])).Writes f scope s := by
  have hname : Filter.ofName? filter.name = some filter := by
    cases filter <;> rfl
  have happly : filter.apply f.indentSize (.value v) [] [] = .ok s := by
    cases filter <;> exact hrun
  refine Node.writes_print (d := .value (.str s)) ?_ rfl
  rw [Expr.evalIn] at h
  rw [Expr.evalIn, Expr.eval, h, ok_bind, evalArgs, ok_bind, hname]
  show (do return Datum.value (.str (← filter.apply f.indentSize (.value v) [] []))) = _
  rw [happly]
  rfl

theorem evalIn_not_last {index : Nat} {items : List Datum}
    (h : scope.lookup "loop" = .loop index items) :
    (Expr.negation (.member (.name "loop") "last")).evalIn f scope =
      .ok (.value (.bool (index != items.length))) := by
  have hloop := evalIn_name (f := f) h
  rw [Expr.evalIn] at hloop
  rw [Expr.evalIn, Expr.eval, Expr.eval, hloop, ok_bind]
  rfl

end

/-- A template of the library is found under its name, and is read as a tree. -/
structure Stands (name source : String) (tree : List Node) : Prop where
  segments : TemplateEngine.nameSegments? name = some [name]
  found : templates.lookup name = some source
  reads : Grammar.ofSource source.toList = .ok tree
  self : Program.namesItself tree = false

theorem property_stands : Stands propertyName propertyTemplate propertyTree where
  segments := by decide +kernel
  found := rfl
  reads := propertyTemplate_reads
  self := by decide +kernel

theorem function_stands : Stands functionName functionTemplate functionTree where
  segments := by decide +kernel
  found := rfl
  reads := functionTemplate_reads
  self := by decide +kernel

theorem class_stands : Stands className classTemplate classTree where
  segments := by decide +kernel
  found := rfl
  reads := classTemplate_reads
  self := by decide +kernel

namespace Stands

variable {name source : String} {tree : List Node} {indentSize : Value} {context : Context}

/-- A template of the library renders as its tree does, once this stands for a program. -/
theorem render_eq (h : Stands name source tree) (hcontext : context.lookup "self" = none) :
    (TemplateEngine.packaged indentSize).render (.str name) context = (do
      Program.check indentSize name tree
      renderTree ⟨indentSize, some name⟩ context tree).mapError (.rendering name) := by
  have hsource : TemplateEngine.sourceText (.packaged indentSize) (.str name) = .ok source := by
    unfold TemplateEngine.packaged TemplateEngine.packagedSource TemplateEngine.sourceText
    simp only [h.segments, h.found]
    rfl
  have hfile : TemplateEngine.programFile (.packaged indentSize) name = name := by
    simp only [TemplateEngine.programFile, TemplateEngine.packaged, TemplateEngine.packagedSource,
      h.segments, Option.bind_some, List.getLast?_singleton, Option.getD_some]
  have htree : TemplateEngine.tree (.packaged indentSize) (.str name) = (do
      Program.check indentSize name tree
      return tree) := by
    rw [TemplateEngine.tree, hsource, ok_bind, compile, h.reads, Except.mapError, ok_bind]
    show (do
      Program.check indentSize (TemplateEngine.programFile (.packaged indentSize) name) tree
      return tree) = _
    rw [hfile]
  rw [TemplateEngine.render, htree]
  cases Program.check indentSize name tree with
  | error cause => rfl
  | ok _ =>
      rw [ok_bind, ok_bind]
      show (TemplateEngine.renderTreeWith (.packaged indentSize) (some name) context
        tree).mapError (Fault.rendering name) = _
      rw [TemplateEngine.renderTreeWith, hcontext]
      rfl

theorem render_ok (h : Stands name source tree) (hcontext : context.lookup "self" = none)
    (hcheck : Program.check indentSize name tree = .ok ()) {text : String}
    (htext : Writes ⟨indentSize, some name⟩ (Scope.ofContext context) tree text) :
    (TemplateEngine.packaged indentSize).render (.str name) context = .ok text := by
  rw [h.render_eq hcontext, hcheck, ok_bind, renderTree_of_writes h.self htext]
  rfl

theorem render_error (h : Stands name source tree) (hcontext : context.lookup "self" = none)
    (hcheck : Program.check indentSize name tree = .ok ()) {cause : Fault}
    (hfails : Fails ⟨indentSize, some name⟩ (Scope.ofContext context) tree cause) :
    (TemplateEngine.packaged indentSize).render (.str name) context =
      .error (.rendering name cause) := by
  rw [h.render_eq hcontext, hcheck, ok_bind, renderTree_of_fails h.self hfails]
  rfl

theorem render_refused (h : Stands name source tree) (hcontext : context.lookup "self" = none)
    {cause : Fault} (hcheck : Program.check indentSize name tree = .error cause) :
    (TemplateEngine.packaged indentSize).render (.str name) context =
      .error (.rendering name cause) := by
  rw [h.render_eq hcontext, hcheck, error_bind]
  rfl

/-- Whatever renders stands for a program. -/
theorem check_of_render (h : Stands name source tree) (hcontext : context.lookup "self" = none)
    {text : String}
    (htext : (TemplateEngine.packaged indentSize).render (.str name) context = .ok text) :
    Program.check indentSize name tree = .ok () := by
  cases hcheck : Program.check indentSize name tree with
  | ok _ => rfl
  | error cause => cases htext.symm.trans (h.render_refused hcontext hcheck)

end Stands

end Packaged

end TypeStencil.Template
