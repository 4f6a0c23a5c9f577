import RpcScaffold.Proofs.Converter.Contents
import RpcScaffold.Service.Proxy

/-!
# The calls of adapters and proxies

Each method of an adapter or of a proxy calls one converter function for its request and one for its
response, by the modules that the file imports.
-/

namespace RpcScaffold

open Code Converter Text

/-! ## Lines -/

theorem newline_not_mem {name : String} (h : IsNamed name) : '\n' ∉ name.toList := by
  intro hmem
  exact absurd (h '\n' hmem) (by decide)

theorem newline_not_mem_signature {name param source target : String} (hname : IsNamed name)
    (hparam : '\n' ∉ param.toList) (hsource : '\n' ∉ source.toList)
    (htarget : '\n' ∉ target.toList) :
    '\n' ∉ (signature name param source target ++ " " ++ openBrace).toList := by
  have hname := newline_not_mem hname
  simp [signature, toString, openBrace, hname, hparam, hsource, htarget]

theorem newline_not_mem_imported {f : Converter.Function} (h : f.IsNamed) :
    '\n' ∉ f.imported.toList := by
  simp [Function.imported, toString, newline_not_mem h.1, newline_not_mem h.2]

theorem newline_not_mem_ident (name : String) : '\n' ∉ (Naming.methodIdent name).toList :=
  not_mem_rawIdent (isNamed_snakeCase name) (by decide) (by decide)

theorem colons_ident (name : String) : colons (Naming.methodIdent name) = 0 :=
  colons_eq_zero.mpr (colon_not_mem_rawIdent (isNamed_snakeCase name))

theorem mentions_call {lead trail : String} (hlead : IsLead .importer lead)
    (htrail : IsTrail .importer trail) (n : Naming) (d : Direction) (list : Bool) (model : String) :
    mentions .importer (lead ++ (function n d list model).imported ++ trail) =
      [function n d list model] := by
  have hsuffix : "_converter".toList <:+ (function n d list model).module.toList := by
    unfold function Naming.converterModule
    rw [String.toList_append]
    exact List.suffix_append _ _
  rw [mentions_trail _ htrail, mentions_lead hlead,
    mentions_imported (function_isNamed n d list model) hsuffix]

namespace Adapter

/-! ## Methods of an adapter -/

theorem Method.texts_eq (m : Method) : textsOf m.steps =
    ["async fn " ++ m.ident ++ "(", "&self,", "request: Request<" ++ m.input ++ ">,",
      ") -> Result<Response<" ++ m.output ++ ">, Status>" ++ " " ++ openBrace,
      "let input = " ++ m.request.imported ++ "(request.into_inner());",
      "let output = self.inner." ++ m.ident ++ "(input).await;",
      "Ok(Response::new(" ++ m.response.imported ++ "(output)))"] := rfl

variable {n : Naming} {c : Contract}

theorem Method.mentions_texts (hinput : IsNamed (n.wireMessage c.input))
    (houtput : IsNamed (n.wireMessage c.output)) :
    (textsOf (Method.ofContract n c).steps).flatMap (mentions .importer) =
      [function n .toDomain false c.input, function n .toWire false c.output] := by
  have hself : mentions .importer "&self," = [] := by decide
  have hheader : mentions .importer ("async fn " ++ Naming.methodIdent c.name ++ "(") = [] := by
    apply mentions_eq_nil
    simp only [colons_append, colons_ident]
    decide
  have hrequest :
      mentions .importer ("request: Request<" ++ n.wireMessage c.input ++ ">,") = [] := by
    apply mentions_eq_nil
    simp only [colons_append, colons_of_isNamed hinput]
    decide
  have hresponse : mentions .importer (") -> Result<Response<" ++ n.wireMessage c.output ++
      ">, Status>" ++ " " ++ openBrace) = [] := by
    apply mentions_eq_nil
    simp only [colons_append, colons_of_isNamed houtput]
    decide
  have hawait : mentions .importer
      ("let output = self.inner." ++ Naming.methodIdent c.name ++ "(input).await;") = [] := by
    apply mentions_eq_nil
    simp only [colons_append, colons_ident]
    decide
  have hlet : IsLead .importer "let input = " := ⟨by decide, by decide⟩
  have hinner : IsTrail .importer "(request.into_inner());" := ⟨by decide, by decide⟩
  have hok : IsLead .importer "Ok(Response::new(" := ⟨by decide, by decide⟩
  have hout : IsTrail .importer "(output)))" := ⟨by decide, by decide⟩
  have hinto := mentions_call hlet hinner n .toDomain false c.input
  have hback := mentions_call hok hout n .toWire false c.output
  rw [Method.texts_eq, Method.ofContract]
  simp only [List.flatMap_cons, List.flatMap_nil, hself, hheader, hrequest, hresponse, hawait,
    hinto, hback, List.nil_append, List.append_nil, List.singleton_append]

theorem Method.newline_not_mem_texts (hinput : IsNamed (n.wireMessage c.input))
    (houtput : IsNamed (n.wireMessage c.output)) :
    ∀ line ∈ textsOf (Method.ofContract n c).steps, '\n' ∉ line.toList := by
  have hident := newline_not_mem_ident c.name
  have hin := newline_not_mem hinput
  have hout := newline_not_mem houtput
  have hrequest := newline_not_mem_imported (function_isNamed n .toDomain false c.input)
  have hresponse := newline_not_mem_imported (function_isNamed n .toWire false c.output)
  rw [Method.texts_eq]
  simp [Method.ofContract, hident, hin, hout, hrequest, hresponse, openBrace]

theorem textsOf_methodSteps (methods : List Method) :
    textsOf (methodSteps methods) = methods.flatMap fun m => textsOf m.steps := by
  induction methods using methodSteps.induct with
  | case1 => rfl
  | case2 m => rw [methodSteps, List.flatMap_singleton]
  | case3 m rest hrest ih =>
    rw [methodSteps, textsOf_append, textsOf, ih, List.flatMap_cons]
    · rfl
    · exact hrest

theorem areWhole_methodSteps (methods : List Method) : areWhole (methodSteps methods) = true := by
  induction methods using methodSteps.induct with
  | case1 => rfl
  | case2 m => rfl
  | case3 m rest hrest ih =>
    have hm : areWhole m.steps = true := rfl
    rw [methodSteps, areWhole_append, areWhole, ih]
    · exact ⟨hm, rfl⟩
    · exact hrest

theorem areWhole_steps (a : Adapter) : areWhole a.steps = true := by
  have hmethods := areWhole_methodSteps a.methods
  simp [steps, imports, definition, bound, fileDoc, importOf, importAll, areWhole, Step.isWhole,
    hmethods]

theorem texts_subset (s : Settings) {record : ServiceRecord} (hc : c ∈ record.methods) :
    textsOf (Method.ofContract s.naming c).steps ⊆ textsOf (ofRecord s record).steps := by
  intro line hline
  have hmem : Step.braced (methodSteps (ofRecord s record).methods) ∈
      (ofRecord s record).steps := by simp [steps]
  apply mem_textsOf hmem
  rw [Step.texts, textsOf_methodSteps, List.mem_flatMap]
  exact ⟨_, List.mem_map_of_mem hc, hline⟩

end Adapter

namespace Proxy

/-! ## Methods of a proxy -/

theorem Method.texts_eq (m : Method) : textsOf [m.step] =
    ["pub async fn " ++ m.ident ++ "(&mut self, request: " ++ m.input ++ ") -> Result<" ++ m.output
        ++ ", Status>" ++ " " ++ openBrace,
      "let request = " ++ m.request.imported ++ "(request);",
      "let response = self.inner." ++ m.ident ++ "(request).await?;",
      "Ok(" ++ m.response.imported ++ "(response.into_inner()))"] := rfl

variable {n : Naming} {c : Contract}

theorem Method.mentions_texts (hinput : IsNamed c.input) (houtput : IsNamed c.output) :
    (textsOf [(Method.ofContract n c).step]).flatMap (mentions .importer) =
      [function n .toWire false c.input, function n .toDomain false c.output] := by
  have hheader : mentions .importer ("pub async fn " ++ Naming.methodIdent c.name ++
      "(&mut self, request: " ++ c.input ++ ") -> Result<" ++ c.output ++ ", Status>" ++ " " ++
      openBrace) = [] := by
    apply mentions_eq_nil
    simp only [colons_append, colons_ident, colons_of_isNamed hinput, colons_of_isNamed houtput]
    decide
  have hawait : mentions .importer
      ("let response = self.inner." ++ Naming.methodIdent c.name ++ "(request).await?;") = [] := by
    apply mentions_eq_nil
    simp only [colons_append, colons_ident]
    decide
  have hlet : IsLead .importer "let request = " := ⟨by decide, by decide⟩
  have hrequest : IsTrail .importer "(request);" := ⟨by decide, by decide⟩
  have hok : IsLead .importer "Ok(" := ⟨by decide, by decide⟩
  have hinner : IsTrail .importer "(response.into_inner()))" := ⟨by decide, by decide⟩
  have hinto := mentions_call hlet hrequest n .toWire false c.input
  have hback := mentions_call hok hinner n .toDomain false c.output
  rw [Method.texts_eq, Method.ofContract]
  simp only [List.flatMap_cons, List.flatMap_nil, hheader, hawait, hinto, hback, List.nil_append,
    List.append_nil, List.singleton_append]

theorem Method.newline_not_mem_texts (hinput : IsNamed c.input) (houtput : IsNamed c.output) :
    ∀ line ∈ textsOf [(Method.ofContract n c).step], '\n' ∉ line.toList := by
  have hident := newline_not_mem_ident c.name
  have hin := newline_not_mem hinput
  have hout := newline_not_mem houtput
  have hrequest := newline_not_mem_imported (function_isNamed n .toWire false c.input)
  have hresponse := newline_not_mem_imported (function_isNamed n .toDomain false c.output)
  rw [Method.texts_eq]
  simp [Method.ofContract, hident, hin, hout, hrequest, hresponse, openBrace]

theorem areWhole_steps (p : Proxy) : areWhole p.steps = true := by
  have hmethods : areWhole (p.methods.flatMap fun m => [.blank, m.step]) = true := by
    rw [areWhole_iff]
    intro step hstep
    obtain ⟨m, -, hstep⟩ := List.mem_flatMap.mp hstep
    rcases List.mem_pair.mp hstep with rfl | rfl
    · rfl
    · rfl
  have himpl : areWhole (p.constructors ++ p.methods.flatMap fun m => [.blank, m.step]) = true :=
    areWhole_append.mpr ⟨rfl, hmethods⟩
  simp [steps, imports, fileDoc, importOf, importAll, areWhole, Step.isWhole, himpl]

theorem texts_subset (s : Settings) {record : ServiceRecord} (hc : c ∈ record.methods) :
    textsOf [(Method.ofContract s.naming c).step] ⊆ textsOf (ofRecord s record).steps := by
  intro line hline
  have himpl : Step.block s!"impl {(ofRecord s record).type}" ((ofRecord s record).constructors ++
      (ofRecord s record).methods.flatMap fun m => [.blank, m.step]) ∈
        (ofRecord s record).steps := by simp [steps]
  apply mem_textsOf himpl
  rw [Step.texts, textsOf_append]
  apply List.mem_cons_of_mem
  apply List.mem_append_right
  have hmethod : (Method.ofContract s.naming c).step ∈
      (ofRecord s record).methods.flatMap fun m => [.blank, m.step] := by
    rw [List.mem_flatMap]
    exact ⟨_, List.mem_map_of_mem hc, by simp⟩
  apply mem_textsOf hmethod
  simpa [textsOf] using hline

end Proxy

end RpcScaffold
