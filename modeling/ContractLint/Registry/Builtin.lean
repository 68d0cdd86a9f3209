import ContractLint.Registry.Basic

namespace ContractLint.Registry

def builtinRules : List Rule :=
  [⟨"erc20-no-return", .error, .erc20⟩,
    ⟨"erc20-return-false", .error, .erc20⟩,
    ⟨"erc20-no-decimals", .error, .erc20⟩,
    ⟨"erc20-no-name", .error, .erc20⟩,
    ⟨"erc20-no-symbol", .error, .erc20⟩,
    ⟨"transfer-no-revert", .error, .erc20⟩,
    ⟨"transfer-no-event", .error, .erc20⟩,
    ⟨"approve-no-event", .error, .erc20⟩,
    ⟨"hardcode-addr", .warning, .code⟩,
    ⟨"byte-array", .information, .gas⟩,
    ⟨"constant-mutability", .information, .code⟩,
    ⟨"fix-version", .information, .code⟩,
    ⟨"int-div", .warning, .vulnerability⟩,
    ⟨"private-modifier", .information, .vulnerability⟩,
    ⟨"view-immutable", .information, .code⟩,
    ⟨"bad-name", .information, .code⟩,
    ⟨"tx-origin", .error, .vulnerability⟩,
    ⟨"throw", .information, .code⟩,
    ⟨"suicide", .information, .code⟩,
    ⟨"unchecked-math", .error, .vulnerability⟩,
    ⟨"sha3", .information, .code⟩,
    ⟨"timstamp", .warning, .vulnerability⟩,
    ⟨"implicit-visibility", .information, .code⟩,
    ⟨"redundant-fallback", .warning, .vulnerability⟩,
    ⟨"type-inference", .information, .code⟩,
    ⟨"revert-vs-require", .information, .code⟩,
    ⟨"pure-function", .information, .code⟩,
    ⟨"reentrance", .error, .vulnerability⟩,
    ⟨"dirty-padding", .error, .vulnerability⟩,
    ⟨"no-return", .information, .code⟩,
    ⟨"delegatecall", .warning, .code⟩,
    ⟨"send-vs-transfer", .warning, .vulnerability⟩,
    ⟨"forced-ether", .error, .vulnerability⟩,
    ⟨"pull-vs-push", .error, .vulnerability⟩,
    ⟨"blockhash", .warning, .vulnerability⟩,
    ⟨"short-addr", .error, .erc20⟩,
    ⟨"transferfrom-no-allowed-check", .warning, .erc20⟩,
    ⟨"approve-with-balance-verify", .warning, .erc20⟩]

theorem builtinRules_distinct : (builtinRules.map Rule.tag).Nodup := by
  decide +kernel

def builtin : Registry where
  rules := builtinRules
  index := .collect (builtinRules.map Rule.tag)
  indexes := indexes_collect builtinRules_distinct

end ContractLint.Registry
