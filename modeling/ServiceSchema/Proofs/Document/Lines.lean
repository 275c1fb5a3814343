/-
The text of a document determines the document (`render_injective`), as long as its texts
keep clear of the few characters that end them (`Legible`).

A text is taken apart in two steps. It is first cut into lines, which are written here a
second time, as a list (`render_eq_lines`). The lines are then read in blocks: one for each
import, message, field and method. What comes after the blocks of one kind begins with a
line that starts none of them, so no counting is needed, and nothing is escaped either: in a
field line only the name must have no blank in it, as the ordinal is cut off at the end.
-/
import Mathlib.Tactic.MkIffOfInductiveProp
import Std.Data.String.ToNat
import ServiceSchema.Proofs.Text.Cut
import ServiceSchema.Service

namespace ServiceSchema

open Text

attribute [ext] FieldLine Message Rpc Document

/-! ## A document as lines -/

def FieldLine.line (layout : Layout) (f : FieldLine) : String :=
  match layout with
  | .nameFirst => "    " ++ f.name ++ " " ++ f.wireType ++ " = " ++ toString f.ordinal.toNat ++ ";"
  | .typeFirst => "    " ++ f.wireType ++ " " ++ f.name ++ " = " ++ toString f.ordinal.toNat ++ ";"

/-- The lines of a message, and the empty line after it. -/
def Message.lines (layout : Layout) (m : Message) : List String :=
  ("message " ++ m.name ++ " \x7b") :: (m.fields.map (·.line layout) ++ ["\x7d", ""])

def Rpc.lines (r : Rpc) : List String :=
  ["    rpc " ++ r.name ++ " (" ++ r.input ++ ") returns (" ++ r.output ++ ") \x7b",
    "        option (google.api.http) = \x7b",
    "            " ++ r.verb ++ ": \"" ++ r.route ++ "\"",
    "            body: \"*\"",
    "        \x7d;",
    "    \x7d"]

namespace Document

def importLine (path : String) : String :=
  "import \"" ++ path ++ "\";"

def goPackageLine (package : String) : String :=
  "option go_package = \"" ++ package ++ "\";"

def goPackageLines (package : String) : List String :=
  if package.isEmpty then [] else ["", goPackageLine package]

/-- The lines from the first message on. -/
def bodyLines (d : Document) : List String :=
  d.messages.flatMap (·.lines d.layout) ++
    ("service " ++ d.service ++ " \x7b") :: (d.rpcs.flatMap Rpc.lines ++ ["\x7d"])

def lines (d : Document) : List String :=
  ("syntax = \"" ++ d.syntaxName ++ "\";") :: "" :: ("package " ++ d.package ++ ";") :: "" ::
    (d.imports.map importLine ++ (goPackageLines d.goPackage ++ "" :: d.bodyLines))

end Document

/-- Lines below another one. -/
def below (lines : List String) : List Char :=
  lines.flatMap fun l => '\n' :: l.toList

theorem FieldLine.toList_render (layout : Layout) (f : FieldLine) :
    (f.render layout).toList = below [f.line layout] := by
  unfold render line below
  cases layout <;> simp

theorem Message.toList_render (layout : Layout) (m : Message) :
    (m.render layout).toList = below (m.lines layout) := by
  unfold render lines below
  simp [List.flatMap_map, FieldLine.toList_render, below]

theorem Rpc.toList_render (r : Rpc) : r.render.toList = below r.lines := by
  unfold render lines below
  simp

namespace Document

theorem toList_renderGoPackage (package : String) :
    (renderGoPackage package).toList = below (goPackageLines package) := by
  unfold renderGoPackage goPackageLines goPackageLine
  split <;> simp [below]

/-- The text of a document is its lines. -/
theorem render_eq_lines (d : Document) : d.render = "\n".intercalate d.lines := by
  rw [← String.toList_inj]
  unfold lines
  rw [toList_intercalate_cons]
  unfold render bodyLines renderImport importLine
  simp [toList_renderGoPackage, Message.toList_render, Rpc.toList_render, below, List.flatMap_map,
    List.flatMap_assoc]

end Document

/-! ## Texts clear of the characters that end them -/

/-- A field line that can be read back: its name ends at a blank. -/
@[mk_iff]
structure FieldLine.Legible (f : FieldLine) : Prop where
  name : Lacks ['\n', ' '] f.name
  wireType : Lacks ['\n'] f.wireType

@[mk_iff]
structure Message.Legible (m : Message) : Prop where
  name : Lacks ['\n'] m.name
  fields : ∀ f ∈ m.fields, f.Legible

/-- A method that can be read back: its names end at blanks and parentheses, its verb at a
colon. -/
@[mk_iff]
structure Rpc.Legible (r : Rpc) : Prop where
  name : Lacks ['\n', ' ', '(', ')'] r.name
  input : Lacks ['\n', ' ', '(', ')'] r.input
  output : Lacks ['\n', ' ', '(', ')'] r.output
  verb : Lacks ['\n', ':'] r.verb
  route : Lacks ['\n'] r.route

@[mk_iff]
structure Document.Legible (d : Document) : Prop where
  syntaxName : Lacks ['\n'] d.syntaxName
  package : Lacks ['\n'] d.package
  imports : ∀ path ∈ d.imports, Lacks ['\n'] path
  goPackage : Lacks ['\n'] d.goPackage
  messages : ∀ m ∈ d.messages, m.Legible
  service : Lacks ['\n'] d.service
  rpcs : ∀ r ∈ d.rpcs, r.Legible

instance (f : FieldLine) : Decidable f.Legible := decidable_of_iff' _ f.legible_iff

instance (m : Message) : Decidable m.Legible := decidable_of_iff' _ m.legible_iff

instance (r : Rpc) : Decidable r.Legible := decidable_of_iff' _ r.legible_iff

instance (d : Document) : Decidable d.Legible := decidable_of_iff' _ d.legible_iff

/-! ## No line has a line feed in it -/

theorem FieldLine.Legible.lacks_line {f : FieldLine} (h : f.Legible) (layout : Layout) :
    Lacks ['\n'] (f.line layout) := by
  have hname : Lacks ['\n'] f.name := h.name.mono (by simp)
  have hordinal : Lacks ['\n'] (toString f.ordinal.toNat) := lacks_toString _ (by decide)
  unfold line
  cases layout <;> simp only [Lacks.append_iff, hname, h.wireType, hordinal] <;> decide

theorem Message.Legible.lacks_lines {m : Message} (h : m.Legible) (layout : Layout) :
    ∀ l ∈ m.lines layout, Lacks ['\n'] l := by
  have hfields : ∀ l ∈ m.fields.map (·.line layout), Lacks ['\n'] l :=
    List.forall_mem_map.2 fun f hf => (h.fields f hf).lacks_line layout
  unfold lines
  simp only [List.forall_mem_cons, List.forall_mem_append, Lacks.append_iff, h.name]
  exact ⟨by decide, hfields, by decide⟩

theorem Rpc.Legible.lacks_lines {r : Rpc} (h : r.Legible) : ∀ l ∈ r.lines, Lacks ['\n'] l := by
  have hname : Lacks ['\n'] r.name := h.name.mono (by simp)
  have hinput : Lacks ['\n'] r.input := h.input.mono (by simp)
  have houtput : Lacks ['\n'] r.output := h.output.mono (by simp)
  have hverb : Lacks ['\n'] r.verb := h.verb.mono (by simp)
  unfold lines
  simp only [List.forall_mem_cons, Lacks.append_iff, hname, hinput, houtput, hverb, h.route]
  decide

namespace Document

theorem Legible.lacks_bodyLines {d : Document} (h : d.Legible) :
    ∀ l ∈ d.bodyLines, Lacks ['\n'] l := by
  have hmessages : ∀ l ∈ d.messages.flatMap (·.lines d.layout), Lacks ['\n'] l := by
    intro l hl
    obtain ⟨m, hm, hl⟩ := List.mem_flatMap.1 hl
    exact (h.messages m hm).lacks_lines d.layout l hl
  have hrpcs : ∀ l ∈ d.rpcs.flatMap Rpc.lines, Lacks ['\n'] l := by
    intro l hl
    obtain ⟨r, hr, hl⟩ := List.mem_flatMap.1 hl
    exact (h.rpcs r hr).lacks_lines l hl
  unfold bodyLines
  simp only [List.forall_mem_append, List.forall_mem_cons, Lacks.append_iff, h.service]
  exact ⟨hmessages, by decide, hrpcs, by decide⟩

theorem Legible.lacks_lines {d : Document} (h : d.Legible) : ∀ l ∈ d.lines, Lacks ['\n'] l := by
  have himports : ∀ l ∈ d.imports.map importLine, Lacks ['\n'] l := by
    refine List.forall_mem_map.2 fun path hpath => ?_
    unfold importLine
    simp only [Lacks.append_iff, h.imports path hpath]
    decide
  have hgo : ∀ l ∈ goPackageLines d.goPackage, Lacks ['\n'] l := by
    unfold goPackageLines goPackageLine
    split
    · simp
    · simp only [List.forall_mem_cons, Lacks.append_iff, h.goPackage]
      decide
  unfold lines
  simp only [List.forall_mem_append, List.forall_mem_cons, Lacks.append_iff, h.syntaxName, h.package]
  exact ⟨by decide, by decide, by decide, by decide, himports, hgo, by decide, h.lacks_bodyLines⟩

end Document

/-! ## Each line is read in one way -/

/-- The last sign of equality, with what stands after it, is cut off first. -/
theorem assignment_inj {a b : String} {m n : UInt32}
    (h : a ++ " = " ++ toString m.toNat ++ ";" = b ++ " = " ++ toString n.toNat ++ ";") :
    a = b ∧ m = n := by
  have hnoblank : ∀ k : Nat, ' ' ∉ (toString k).toList ++ [';'] := by
    intro k hm
    have hdigits : Lacks [' '] (toString k) := lacks_toString k (by decide)
    rcases List.mem_append.1 hm with hm | hm
    · exact hdigits.not_mem (by simp) hm
    · exact absurd hm (by decide)
  have hcut : (a.toList ++ [' ', '=']) ++ ' ' :: ((toString m.toNat).toList ++ [';']) =
      (b.toList ++ [' ', '=']) ++ ' ' :: ((toString n.toNat).toList ++ [';']) := by
    simpa using congrArg String.toList h
  obtain ⟨hab, hmn⟩ := cut_last (hnoblank _) (hnoblank _) hcut
  refine ⟨String.toList_injective (List.append_cancel_right hab), UInt32.toNat_inj.1 ?_⟩
  exact Nat.repr_inj.1 (String.toList_injective (List.append_cancel_right hmn))

theorem FieldLine.line_inj {layout : Layout} {f g : FieldLine} (hf : f.Legible) (hg : g.Legible)
    (h : f.line layout = g.line layout) : f = g := by
  have hf' := hf.name.not_mem (c := ' ') (by simp)
  have hg' := hg.name.not_mem (c := ' ') (by simp)
  unfold line at h
  cases layout with
  | nameFirst =>
    obtain ⟨htexts, hordinal⟩ := assignment_inj h
    obtain ⟨hname, htype⟩ := cut_first hf' hg' (by simpa using congrArg String.toList htexts)
    exact FieldLine.ext (String.toList_injective hname) (String.toList_injective htype) hordinal
  | typeFirst =>
    obtain ⟨htexts, hordinal⟩ := assignment_inj h
    obtain ⟨htype, hname⟩ := cut_last hf' hg' (by simpa using congrArg String.toList htexts)
    exact FieldLine.ext (String.toList_injective hname) (String.toList_injective htype) hordinal

theorem FieldLine.prefixFree (layout : Layout) :
    PrefixFree FieldLine.Legible fun f => [f.line layout] :=
  .singleton fun _ _ => line_inj

theorem Message.prefixFree (layout : Layout) :
    PrefixFree Message.Legible fun m => m.lines layout := by
  intro a b ha hb s t h
  unfold lines at h
  simp only [List.map_eq_flatMap, List.cons_append, List.append_assoc, List.nil_append] at h
  obtain ⟨hname, hrest⟩ := List.cons.inj h
  have hclose : ∀ (s : List String) (f : FieldLine) (r : List String),
      "\x7d" :: "" :: s ≠ [f.line layout] ++ r := by
    intro s f r he
    have hline := congrArg String.toList (List.cons.inj he).1
    unfold FieldLine.line at hline
    cases layout <;> simp at hline
  obtain ⟨hfields, htail⟩ := (FieldLine.prefixFree layout).flatMap_inj ha.fields hb.fields
    (hclose s) (hclose t) hrest
  exact ⟨Message.ext (by simpa using hname) hfields, by simpa using htail⟩

theorem Rpc.prefixFree : PrefixFree Rpc.Legible Rpc.lines := by
  intro a b ha hb s t h
  unfold lines at h
  simp only [List.cons_append, List.nil_append, List.cons.injEq, true_and] at h
  obtain ⟨hhead, hrule, rfl⟩ := h
  have hhead' := congrArg String.toList hhead
  have hrule' := congrArg String.toList hrule
  obtain ⟨hname, hrecords⟩ := cut_first (ha.name.not_mem (c := ' ') (by simp))
    (hb.name.not_mem (by simp)) (by simpa using hhead')
  obtain ⟨hinput, houtput⟩ := cut_first (ha.input.not_mem (c := ')') (by simp))
    (hb.input.not_mem (by simp)) (by simpa using hrecords)
  obtain ⟨hverb, hroute⟩ := cut_first (ha.verb.not_mem (c := ':') (by simp))
    (hb.verb.not_mem (by simp)) (by simpa using hrule')
  refine ⟨Rpc.ext (String.toList_injective hname) (String.toList_injective hinput) ?_
    (String.toList_injective hverb) ?_, rfl⟩
  · exact String.toList_injective (by simpa using houtput)
  · exact String.toList_injective (by simpa using hroute)

namespace Document

theorem importLine_prefixFree : PrefixFree (Lacks ['\n']) fun path => [importLine path] :=
  .singleton fun a b _ _ h => by
    unfold importLine at h
    simpa using h

/-! ## The parts of a document -/

/-- The option line is there exactly when what follows the empty line is one. -/
theorem goPackageLines_inj {p q : String} {s t : List String} (hs : ∀ p r, s ≠ goPackageLine p :: r)
    (ht : ∀ p r, t ≠ goPackageLine p :: r)
    (h : goPackageLines p ++ "" :: s = goPackageLines q ++ "" :: t) : p = q ∧ s = t := by
  unfold goPackageLines at h
  by_cases hp : p.isEmpty <;> by_cases hq : q.isEmpty
  · rw [if_pos hp, if_pos hq] at h
    rw [String.isEmpty_iff.1 hp, String.isEmpty_iff.1 hq]
    exact ⟨rfl, (List.cons.inj h).2⟩
  · rw [if_pos hp, if_neg hq] at h
    exact absurd (List.cons.inj h).2 (hs q _)
  · rw [if_neg hp, if_pos hq] at h
    exact absurd (List.cons.inj h).2.symm (ht p _)
  · rw [if_neg hp, if_neg hq] at h
    simp only [List.cons_append, List.nil_append, List.cons.injEq, true_and] at h
    obtain ⟨hline, rfl⟩ := h
    unfold goPackageLine at hline
    exact ⟨by simpa using hline, rfl⟩

/-- The first line of the body is that of a message or of the service. -/
theorem bodyLines_ne (d : Document) (p : String) (r : List String) :
    d.bodyLines ≠ goPackageLine p :: r := by
  unfold bodyLines goPackageLine
  intro h
  cases hm : d.messages with
  | nil =>
    rw [hm] at h
    have hline := congrArg String.toList (List.cons.inj h).1
    simp at hline
  | cons m rest =>
    rw [hm] at h
    have hline := congrArg String.toList (List.cons.inj h).1
    simp at hline

theorem bodyLines_inj {d e : Document} (hd : d.Legible) (he : e.Legible) (hl : d.layout = e.layout)
    (h : d.bodyLines = e.bodyLines) :
    d.messages = e.messages ∧ d.service = e.service ∧ d.rpcs = e.rpcs := by
  have hservice : ∀ (name : String) (s : List String) (m : Message) (r : List String),
      ("service " ++ name ++ " \x7b") :: s ≠ m.lines e.layout ++ r := by
    intro name s m r h
    unfold Message.lines at h
    have hline := congrArg String.toList (List.cons.inj h).1
    simp at hline
  have hclose : ∀ (m : Rpc) (r : List String), ["\x7d"] ≠ m.lines ++ r := by
    intro m r h
    unfold Rpc.lines at h
    have hline := congrArg String.toList (List.cons.inj h).1
    simp at hline
  unfold bodyLines at h
  rw [hl] at h
  obtain ⟨hmessages, hrest⟩ := (Message.prefixFree e.layout).flatMap_inj hd.messages he.messages
    (hservice _ _) (hservice _ _) h
  obtain ⟨hname, hrpcs⟩ := List.cons.inj hrest
  refine ⟨hmessages, by simpa using hname, ?_⟩
  exact (Rpc.prefixFree.flatMap_inj hd.rpcs he.rpcs hclose hclose hrpcs).1

/-- **Rendering loses nothing.** Two legible documents of one layout that have the same text
are the same document. -/
theorem render_injective {d e : Document} (hd : d.Legible) (he : e.Legible)
    (hl : d.layout = e.layout) (h : d.render = e.render) : d = e := by
  rw [render_eq_lines, render_eq_lines] at h
  have hlines := intercalate_inj hd.lacks_lines he.lacks_lines (List.cons_ne_nil _ _)
    (List.cons_ne_nil _ _) h
  unfold lines at hlines
  simp only [List.cons.injEq, true_and, List.map_eq_flatMap] at hlines
  obtain ⟨hsyn, hpackage, hrest⟩ := hlines
  have hblank : ∀ (p : String) (s : List String) (path : String) (r : List String),
      goPackageLines p ++ "" :: s ≠ [importLine path] ++ r := by
    intro p s path r h
    unfold goPackageLines importLine at h
    split at h <;> simp at h
  obtain ⟨himports, hrest⟩ := importLine_prefixFree.flatMap_inj hd.imports he.imports
    (hblank _ _) (hblank _ _) hrest
  obtain ⟨hgo, hbody⟩ := goPackageLines_inj d.bodyLines_ne e.bodyLines_ne hrest
  obtain ⟨hmessages, hservice, hrpcs⟩ := bodyLines_inj hd he hl hbody
  exact Document.ext (by simpa using hsyn) (by simpa using hpackage) himports hgo hmessages
    hservice hrpcs hl

/-! ## A document read off its text -/

def sampleText : String :=
  "syntax = \"proto3\";\n\npackage lookup.v1;\n" ++
    "\nimport \"google/api/annotations.proto\";\n" ++
    "\nmessage Lookup \x7b\n    keys map<string, int32> = 1;\n\x7d\n" ++
    "\nmessage Found \x7b\n\x7d\n" ++
    "\nservice Lookup \x7b\n    rpc Find (Lookup) returns (Found) \x7b" ++
    "\n        option (google.api.http) = \x7b\n            post: \"/find\"" ++
    "\n            body: \"*\"\n        \x7d;\n    \x7d\n\x7d"

def sampleDocument : Document where
  syntaxName := "proto3"
  package := "lookup.v1"
  imports := ["google/api/annotations.proto"]
  goPackage := ""
  messages := [⟨"Lookup", [⟨"keys", "map<string, int32>", 1⟩]⟩, ⟨"Found", []⟩]
  service := "Lookup"
  rpcs := [⟨"Find", "Lookup", "Found", "post", "/find"⟩]
  layout := .nameFirst

def sampleHandler : Handler where
  name := "Find"
  request := .ofFields "Lookup" [("keys", .map (.scalar .text) (.scalar .int32))]
  response := .bare "Found"
  method := .post
  route := "/Find"
  authentication := .anyone
  permissions := []

/-- The document of a service. -/
def sampleServiceDocument : Document :=
  Service.document
    ⟨{ name := "lookup" }, [sampleHandler], [sampleHandler.request, sampleHandler.response]⟩
    .empty .nameFirst

/-- The text of the service is that of the document, and so is its document. -/
theorem sampleServiceDocument_eq :
    sampleServiceDocument.Legible ∧ sampleDocument.Legible ∧
      sampleServiceDocument.render = sampleText ∧ sampleDocument.render = sampleText ∧
      sampleServiceDocument = sampleDocument := by
  have hservice : sampleServiceDocument.Legible := by decide +kernel
  have hsample : sampleDocument.Legible := by decide +kernel
  have hservice' : sampleServiceDocument.render = sampleText := by decide +kernel
  have hsample' : sampleDocument.render = sampleText := by decide +kernel
  exact ⟨hservice, hsample, hservice', hsample',
    render_injective hservice hsample rfl (hservice'.trans hsample'.symm)⟩

end Document

end ServiceSchema
