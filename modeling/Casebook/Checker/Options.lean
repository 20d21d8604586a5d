import Casebook.Config.Basic
import Casebook.Fault
import Casebook.Table
import Casebook.Text.Affix

/-!
# Options of the checker

The checker has a fixed set of options. Some take values of one kind only, and some names
cannot be set at all. Options are built from a configuration: first what every
compilation needs, then the version, then the further options one by one, the first bad
one being reported.
-/

namespace Casebook.Checker

/-- What an option takes. -/
inductive OptionKind
  | truth
  | integer
  | textOrNull
  /-- Two integers. -/
  | version
  | any
  /-- The name is taken and cannot be set. -/
  | fixed
deriving Repr, DecidableEq

/-- Options that are on or off. -/
def truthOptions : List String :=
  ["allow_empty_bodies", "allow_redefinition_new", "allow_redefinition_old",
    "allow_untyped_globals", "bazel", "cache_fine_grained", "check_untyped_defs",
    "color_output", "debug_cache", "debug_serialize", "disable_bytearray_promotion",
    "disable_expression_cache", "disable_memoryview_promotion", "disallow_any_decorated",
    "disallow_any_explicit", "disallow_any_expr", "disallow_any_generics",
    "disallow_any_unimported", "disallow_incomplete_defs", "disallow_subclassing_any",
    "disallow_untyped_calls", "disallow_untyped_decorators", "disallow_untyped_defs",
    "dump_build_stats", "dump_deps", "dump_graph", "dump_inference_stats",
    "dump_type_stats", "error_summary", "exclude_gitignore", "explicit_package_bases",
    "export_ref_info", "export_types", "extra_checks", "fast_exit", "fast_module_lookup",
    "fine_grained_incremental", "fixed_format_cache", "follow_imports_for_stubs",
    "follow_untyped_imports", "hide_error_codes", "ignore_errors",
    "ignore_missing_imports", "ignore_missing_imports_per_module", "implicit_optional",
    "implicit_reexport", "include_docstrings", "incremental", "inspections",
    "install_types", "local_partial_types", "logical_deps", "mypyc",
    "mypyc_skip_c_generation", "namespace_packages", "native_parser",
    "no_silence_site_packages", "no_site_packages", "non_interactive",
    "old_type_inference", "pdb", "pos_only_special_methods", "preserve_asts", "pretty",
    "raise_exceptions", "report_deprecated_as_note", "reveal_verbose_types",
    "scripts_are_modules", "semantic_analysis_only", "show_absolute_path",
    "show_column_numbers", "show_error_code_links", "show_error_context",
    "show_error_end", "show_traceback", "skip_cache_mtime_checks", "skip_version_check",
    "sqlite_cache", "strict_bytes", "strict_concatenate", "strict_equality",
    "strict_equality_for_none", "strict_optional", "test_env", "use_builtins_fixtures",
    "use_fine_grained_cache", "warn_incomplete_stub", "warn_no_return",
    "warn_redundant_casts", "warn_return_any", "warn_unreachable", "warn_unused_configs",
    "warn_unused_ignores"]

/-- Options that are numbers. -/
def integerOptions : List String :=
  ["build_type", "many_errors_threshold", "num_workers", "verbosity"]

/-- Options that are texts and may be left open. -/
def textOptions : List String :=
  ["abs_custom_typeshed_dir", "config_file", "custom_typeshed_dir",
    "custom_typing_module", "junit_xml", "line_checking_stats", "mypyc_annotation_file",
    "output", "python_executable", "quickstart_file", "timing_stats"]

/-- Options whose values are taken as they are: lists, maps, sets, and texts. -/
def otherOptions : List String :=
  ["always_false", "always_true", "deprecated_calls_exclude", "disable_error_code",
    "enable_error_code", "enable_incomplete_feature", "exclude", "mypy_path",
    "package_root", "plugins", "untyped_calls_exclude", "cache_dir", "follow_imports",
    "junit_format", "cache_map", "per_module_options", "report_dirs",
    "disabled_error_codes", "enabled_error_codes", "unused_configs", "files", "modules",
    "packages", "shadow_file", "platform", "transform_source"]

/-- Names of what the checker does with its options. -/
def fixedOptions : List String :=
  ["apply_changes", "build_per_module_cache", "clone_for_module", "compare_stable",
    "compile_glob", "dep_import_options", "process_error_codes",
    "process_incomplete_features", "process_strict_bytes",
    "select_options_affecting_cache", "snapshot", "use_star_unpack"]

/-- The name of the option for the version to check for. -/
def versionOption : String := "python_version"

/-- What the option of a name takes; nothing if there is no such option. -/
def optionKind? (name : Text) : Option OptionKind :=
  let isOf := fun (names : List String) => name.string?.any names.contains
  if isOf truthOptions then some .truth
  else if isOf integerOptions then some .integer
  else if isOf textOptions then some .textOrNull
  else if name = versionOption then some .version
  else if isOf otherOptions then some .any
  else if isOf fixedOptions then some .fixed
  else none

/-- The kind of a value as a refused option reports it. -/
def givenKind : Value → String
  | .null => "None"
  | v => v.fullKindName

/-- A value as an option of a kind keeps it, or why the option of that name refuses it. A
truth value counts as a number. -/
def OptionKind.admit (kind : OptionKind) (name : Text) (v : Value) : Outcome Value :=
  let refused := fun expected => Except.error (.optionType expected (givenKind v))
  match kind, v with
  | .truth, .bool b => .ok (.bool b)
  | .truth, _ => refused "bool"
  | .integer, .int i => .ok (.int i)
  | .integer, .bool b => .ok (.int (if b then 1 else 0))
  | .integer, _ => refused "int"
  | .textOrNull, .text s => .ok (.text s)
  | .textOrNull, .null => .ok .null
  | .textOrNull, _ => refused "str or None"
  | .version, .tuple [.int m, .int n] => .ok (.tuple [.int m, .int n])
  | .version, _ => refused "tuple[int, int]"
  | .any, v => .ok v
  | .fixed, _ => .error (.fixedOption name)

/-- The options that were set, by name. -/
structure Options where
  values : List (Text × Value)
deriving Repr

/-- An option that the checker does not have. -/
def unknownReport (name : Text) : Report :=
  ⟨s!"Unknown mypy option {Text.quoted name}", [⟨"mypy Options attributes", false, none⟩], []⟩

namespace Options

def get? (o : Options) (name : Text) : Option Value := o.values.lookup name

def put (o : Options) (name : Text) (v : Value) : Options := ⟨Table.put name v o.values⟩

/-- Sets an option that a configuration names. -/
def set (o : Options) (name : Text) (v : Value) : Outcome Options :=
  match optionKind? name with
  | none => .error (.setup (unknownReport name))
  | some kind => do return o.put name (← kind.admit name v)

/-- What every compilation needs: nothing is kept between compilations, columns are shown,
and nothing but the mounted files is searched. -/
def initial : Options :=
  ⟨[("incremental", .bool false), ("cache_dir", .text "/dev/null"),
    ("python_executable", .null), ("show_column_numbers", .bool true),
    ("raise_exceptions", .bool true), ("mypy_path", .list [])]⟩

/-- The two numbers of a version. -/
def versionNumbers (version : Text) : Outcome Value := do
  let number := fun ps => do
    return Value.int (Int.ofNat (← (Text.readNumeral (ps.filterMap Point.char?)).mapError
      Fault.longNumeral))
  let isPart := fun p => p ≠ Point.char '.'
  return .tuple [← number (version.points.takeWhile isPart),
    ← number ((version.points.dropWhile isPart).drop 1)]

/-- The options with the version set, if there is one. -/
def withVersion (o : Options) : Option Text → Outcome Options
  | none => .ok o
  | some version => do return o.put versionOption (← versionNumbers version)

/-- The options that a configuration asks for. -/
def ofConfig (c : CheckerConfig) : Outcome Options := do
  let o ← initial.withVersion c.version
  c.options.foldlM (fun o e => o.set e.1 e.2) o

/-- The folder that stands in for the checker's own folder of stub files, if one is set. -/
def stubFolder? (o : Options) : Option Text :=
  match o.get? "custom_typeshed_dir" with
  | some (.text s) => if s.isEmpty then none else some s
  | _ => none

end Options

end Casebook.Checker
