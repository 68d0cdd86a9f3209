import ContractLint.Json.Shape

namespace ContractLint.Capabilities

open Json

def optional (name : String) (shape : Shape) : String × Shape :=
  (name, .optional shape)

def flag (name : String) : String × Shape :=
  optional name .bool

def flags (names : List String) : List (String × Shape) :=
  names.map flag

def dynamic : List (String × Shape) :=
  flags ["dynamicRegistration"]

def plain (name : String) : String × Shape :=
  optional name (.record dynamic)

def plains (names : List String) : List (String × Shape) :=
  names.map plain

def switches (name : String) (names : List String) : String × Shape :=
  optional name (.record (flags names))

def refreshing (name : String) : String × Shape :=
  switches name ["refreshSupport"]

def linking (name : String) : String × Shape :=
  switches name ["dynamicRegistration", "linkSupport"]

def resolving : String × Shape :=
  optional "resolveSupport" (.record [("properties", .list .text)])

def kinds (name : String) : String × Shape :=
  optional name (.record [optional "valueSet" (.list .int32)])

def tags : Shape :=
  .either .bool (.record [("valueSet", .list .int32)])

def tagged : String × Shape :=
  optional "tagSupport" tags

def markup (name : String) : String × Shape :=
  optional name (.list (.oneOf ["plaintext", "markdown"]))

section Workspace

def workspaceEdit : String × Shape :=
  optional "workspaceEdit" (.record [
    flag "documentChanges",
    optional "resourceOperations" (.list (.oneOf ["create", "rename", "delete"])),
    optional "failureHandling"
      (.oneOf ["abort", "transactional", "textOnlyTransactional", "undo"]),
    flag "normalizesLineEndings",
    switches "changeAnnotationSupport" ["groupsOnLabel"]])

def workspaceSymbol : String × Shape :=
  optional "symbol" (.record (dynamic ++ [kinds "symbolKind", tagged, resolving]))

def workspace : String × Shape :=
  optional "workspace" (.record [
    flag "applyEdit",
    workspaceEdit,
    plain "didChangeConfiguration",
    switches "didChangeWatchedFiles" ["dynamicRegistration", "relativePatternSupport"],
    workspaceSymbol,
    plain "executeCommand",
    flag "workspaceFolders",
    flag "configuration",
    refreshing "semanticTokens",
    refreshing "codeLens",
    switches "fileOperations" [
      "dynamicRegistration", "didCreate", "willCreate", "didRename", "willRename", "didDelete",
      "willDelete"],
    refreshing "inlineValue",
    refreshing "inlayHint",
    refreshing "diagnostic"])

end Workspace

section TextDocument

def completionItem : String × Shape :=
  optional "completionItem" (.record [
    flag "snippetSupport",
    flag "commitCharactersSupport",
    markup "documentationFormat",
    flag "deprecatedSupport",
    flag "preselectSupport",
    tagged,
    flag "insertReplaceSupport",
    resolving,
    optional "insertTextModeSupport" (.record [("valueSet", .list .int32)]),
    flag "labelDetailsSupport"])

def completion : String × Shape :=
  optional "completion" (.record (dynamic ++ [
    completionItem,
    kinds "completionItemKind",
    flag "contextSupport",
    optional "insertTextMode" .int32,
    optional "completionList" (.record [optional "itemDefaults" (.list .text)])]))

def hover : String × Shape :=
  optional "hover" (.record (dynamic ++ [markup "contentFormat"]))

def signatureHelp : String × Shape :=
  optional "signatureHelp" (.record (dynamic ++ [
    optional "signatureInformation" (.record [
      markup "documentationFormat",
      switches "parameterInformation" ["labelOffsetSupport"],
      flag "activeParameterSupport"]),
    flag "contextSupport"]))

def documentSymbol : String × Shape :=
  optional "documentSymbol" (.record (dynamic ++ [
    kinds "symbolKind", flag "hierarchicalDocumentSymbolSupport", ("tagSupport", .spare tags)]))

def codeAction : String × Shape :=
  optional "codeAction" (.record (dynamic ++ [
    optional "codeActionLiteralSupport" (.record [
      ("codeActionKind", .record [("valueSet", .list .text)])]),
    flag "isPreferredSupport",
    flag "disabledSupport",
    flag "dataSupport",
    resolving,
    flag "honorsChangeAnnotations"]))

def rename : String × Shape :=
  optional "rename" (.record (dynamic ++ [
    flag "prepareSupport",
    optional "prepareSupportDefaultBehavior" .int32,
    flag "honorsChangeAnnotations"]))

def publishDiagnostics : String × Shape :=
  optional "publishDiagnostics" (.record [
    flag "relatedInformation",
    tagged,
    flag "versionSupport",
    flag "codeDescriptionSupport",
    flag "dataSupport"])

def foldingRange : String × Shape :=
  optional "foldingRange" (.record (dynamic ++ [
    optional "rangeLimit" .uint32,
    flag "lineFoldingOnly",
    optional "foldingRangeKind" (.record [
      optional "valueSet" (.list (.oneOf ["comment", "imports", "region"]))]),
    switches "foldingRange" ["collapsedText"]]))

def semanticTokens : String × Shape :=
  optional "semanticTokens" (.record (dynamic ++ [
    ("requests", .record [
      flag "range", optional "full" (.either .bool (.object [flag "delta"]))]),
    ("tokenTypes", .list .text),
    ("tokenModifiers", .list .text),
    ("formats", .list .text),
    flag "overlappingTokenSupport",
    flag "multilineTokenSupport",
    flag "serverCancelSupport",
    flag "augmentsSyntaxTokens"]))

def textDocument : String × Shape :=
  optional "textDocument" (.record ([
    switches "synchronization" [
      "dynamicRegistration", "willSave", "willSaveWaitUntil", "didSave"],
    completion,
    hover,
    signatureHelp,
    plain "references",
    plain "documentHighlight",
    documentSymbol]
    ++ plains ["formatting", "rangeFormatting", "onTypeFormatting"]
    ++ ["declaration", "definition", "typeDefinition", "implementation"].map linking
    ++ [
      codeAction,
      plain "codeLens",
      switches "documentLink" ["dynamicRegistration", "tooltipSupport"],
      plain "colorProvider",
      rename,
      publishDiagnostics,
      foldingRange]
    ++ plains ["selectionRange", "linkedEditingRange", "callHierarchy"]
    ++ [semanticTokens]
    ++ plains ["moniker", "typeHierarchy", "inlineValue"]
    ++ [
      optional "inlayHint" (.record (dynamic ++ [resolving])),
      switches "diagnostic" ["dynamicRegistration", "relatedDocumentSupport"]]))

end TextDocument

def window : String × Shape :=
  optional "window" (.record [
    flag "workDoneProgress",
    optional "showMessage" (.record [
      switches "messageActionItem" ["additionalPropertiesSupport"]]),
    optional "showDocument" (.record [("support", .bool)])])

def general : String × Shape :=
  optional "general" (.record [
    optional "regularExpressions" (.record [("engine", .text), optional "version" .text]),
    optional "markdown" (.record [
      ("parser", .text), optional "version" .text, optional "allowedTags" (.list .text)]),
    optional "staleRequestSupport" (.record [
      ("cancel", .bool), ("retryOnContentModified", .list .text)]),
    optional "positionEncodings" (.list .text)])

def shape : Shape :=
  .record [workspace, textDocument, window, general, optional "experimental" .any]

end ContractLint.Capabilities
