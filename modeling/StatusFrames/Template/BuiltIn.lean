/-
The templates that come with the library, and the file names under which they can be replaced.
-/
namespace StatusFrames.Template

/-- A template by the name under which others load it. -/
structure BuiltIn where
  name : String
  fileName : String
  text : String

/-- Lines joined to a text that ends with a line break. -/
def linesText (lines : List String) : String := String.join (lines.map (· ++ "\n"))

/-- Definitions for enumerations, prototypes and byte counts. -/
def macrosText : String :=
  linesText
    ["\x7b% macro enumeration(e) %\x7d",
     "typedef enum \x7b",
     "\x7b% for v in e.enumerators %\x7d",
     "  \x7b\x7b v.name \x7d\x7d\x7b\x7b \" = \" ~ v.value if v.explicit else \"\" \x7d\x7d\x7b\x7b \",\" if not loop.last else \"\" \x7d\x7d",
     "\x7b% endfor %\x7d",
     "\x7d \x7b\x7b e.type_name \x7d\x7d;",
     "\x7b%- endmacro %\x7d",
     "",
     "\x7b% macro prototype(p) %\x7d",
     "\x7b\x7b p.return_type \x7d\x7d \x7b\x7b p.name \x7d\x7d(\x7b\x7b p.params | join(\", \") if p.params else \"void\" \x7d\x7d);",
     "\x7b%- endmacro %\x7d",
     "",
     "\x7b% macro bytes(width) %\x7d\x7b\x7b \"1 byte\" if width == 1 else width ~ \" bytes\" \x7d\x7d\x7b% endmacro %\x7d"]

/-- Header of one subsystem. -/
def protocolText : String :=
  linesText
    ["\x7b% import \"macros\" as m %\x7d",
     "#ifndef \x7b\x7b guard \x7d\x7d",
     "#define \x7b\x7b guard \x7d\x7d",
     "",
     "/* Generated by ksrp from \x7b\x7b protocol.source \x7d\x7d. Do not edit. */",
     "",
     "\x7b% for header in clibraries %\x7d",
     "#include <\x7b\x7b header \x7d\x7d>",
     "\x7b% endfor %\x7d",
     "\x7b% if libraries %\x7d",
     "",
     "\x7b% for header in libraries %\x7d",
     "#include \"\x7b\x7b header \x7d\x7d\"",
     "\x7b% endfor %\x7d",
     "\x7b% endif %\x7d",
     "",
     "/* Frame ids of subsystem '\x7b\x7b protocol.subsystem \x7d\x7d' */",
     "\x7b\x7b m.enumeration(protocol.frame_ids) \x7d\x7d",
     "\x7b% for frame in protocol.frames %\x7d",
     "",
     "/* Frame '\x7b\x7b frame.name \x7d\x7d' (id \x7b\x7b frame.id \x7d\x7d) */",
     "\x7b% for field in frame.fields if field.enum_type %\x7d",
     "",
     "\x7b\x7b m.enumeration(field.enum_type) \x7d\x7d",
     "\x7b% endfor %\x7d",
     "\x7b% if frame.fields | selectattr(\"constants\") | list %\x7d",
     "",
     "\x7b% for field in frame.fields %\x7d",
     "\x7b% for constant in field.constants %\x7d",
     "#define \x7b\x7b constant.name \x7d\x7d \x7b\x7b constant.value \x7d\x7d",
     "\x7b% endfor %\x7d",
     "\x7b% endfor %\x7d",
     "\x7b% endif %\x7d",
     "",
     "typedef struct __attribute__((packed)) \x7b",
     "\x7b% for field in frame.fields %\x7d",
     "  \x7b\x7b field.storage_type \x7d\x7d \x7b\x7b field.name \x7d\x7d; /* offset \x7b\x7b field.offset \x7d\x7d, \x7b\x7b m.bytes(field.width) \x7d\x7d */",
     "\x7b% endfor %\x7d",
     "\x7d \x7b\x7b frame.type_name \x7d\x7d;",
     "",
     "#define \x7b\x7b frame.size_constant.name \x7d\x7d \x7b\x7b frame.size_constant.value \x7d\x7d",
     "_Static_assert(sizeof(\x7b\x7b frame.type_name \x7d\x7d) == \x7b\x7b frame.size_constant.name \x7d\x7d, \"\x7b\x7b frame.size_assert \x7d\x7d\");",
     "#define \x7b\x7b frame.type_id.name \x7d\x7d \x7b\x7b frame.type_id.value \x7d\x7d",
     "",
     "\x7b\x7b m.enumeration(frame.field_ids) \x7d\x7d",
     "",
     "\x7b% for field in frame.fields %\x7d",
     "\x7b\x7b m.prototype(field.getter) \x7d\x7d",
     "\x7b% endfor %\x7d",
     "",
     "\x7b% for field in frame.fields %\x7d",
     "\x7b\x7b m.prototype(field.setter) \x7d\x7d",
     "\x7b% endfor %\x7d",
     "\x7b% endfor %\x7d",
     "",
     "#endif /* \x7b\x7b guard \x7d\x7d */"]

/-- Header with the latest frames of one subsystem. -/
def instanceText : String :=
  linesText
    ["\x7b% import \"macros\" as m %\x7d",
     "\x7b% set instance = protocol.instance %\x7d",
     "#ifndef \x7b\x7b guard \x7d\x7d",
     "#define \x7b\x7b guard \x7d\x7d",
     "",
     "/* Generated by ksrp. Do not edit. */",
     "",
     "\x7b% for header in clibraries %\x7d",
     "#include <\x7b\x7b header \x7d\x7d>",
     "\x7b% endfor %\x7d",
     "\x7b% if libraries %\x7d",
     "",
     "\x7b% for header in libraries %\x7d",
     "#include \"\x7b\x7b header \x7d\x7d\"",
     "\x7b% endfor %\x7d",
     "\x7b% endif %\x7d",
     "",
     "typedef struct \x7b",
     "\x7b% for member in instance.members %\x7d",
     "  \x7b\x7b member.frame_type \x7d\x7d \x7b\x7b member.frame_member \x7d\x7d;",
     "\x7b% endfor %\x7d",
     "\x7b% for member in instance.members %\x7d",
     "  \x7b\x7b instance.clock_type \x7d\x7d \x7b\x7b member.clock_member \x7d\x7d;",
     "\x7b% endfor %\x7d",
     "\x7d \x7b\x7b instance.type_name \x7d\x7d;",
     "",
     "\x7b% for p in instance.prototypes %\x7d",
     "\x7b\x7b m.prototype(p) \x7d\x7d",
     "\x7b% endfor %\x7d",
     "",
     "#endif /* \x7b\x7b guard \x7d\x7d */"]

/-- Header with the ids of all subsystems. -/
def commonText : String :=
  linesText
    ["\x7b% import \"macros\" as m %\x7d",
     "#ifndef \x7b\x7b guard \x7d\x7d",
     "#define \x7b\x7b guard \x7d\x7d",
     "",
     "/* Generated by ksrp. Do not edit. */",
     "",
     "\x7b% for header in clibraries %\x7d",
     "#include <\x7b\x7b header \x7d\x7d>",
     "\x7b% endfor %\x7d",
     "\x7b% if libraries %\x7d",
     "",
     "\x7b% for header in libraries %\x7d",
     "#include \"\x7b\x7b header \x7d\x7d\"",
     "\x7b% endfor %\x7d",
     "\x7b% endif %\x7d",
     "",
     "/* Subsystem ids */",
     "\x7b\x7b m.enumeration(subsystem_ids) \x7d\x7d",
     "",
     "#endif /* \x7b\x7b guard \x7d\x7d */"]

/-- Header that gathers all subsystems. -/
def utilsText : String :=
  linesText
    ["\x7b% import \"macros\" as m %\x7d",
     "#ifndef \x7b\x7b guard \x7d\x7d",
     "#define \x7b\x7b guard \x7d\x7d",
     "",
     "/* Generated by ksrp. Do not edit. */",
     "",
     "\x7b% for header in clibraries %\x7d",
     "#include <\x7b\x7b header \x7d\x7d>",
     "\x7b% endfor %\x7d",
     "\x7b% if libraries %\x7d",
     "",
     "\x7b% for header in libraries %\x7d",
     "#include \"\x7b\x7b header \x7d\x7d\"",
     "\x7b% endfor %\x7d",
     "\x7b% endif %\x7d",
     "",
     "#define \x7b\x7b subsystem_count.name \x7d\x7d \x7b\x7b subsystem_count.value \x7d\x7d",
     "\x7b% for protocol in protocols %\x7d",
     "",
     "\x7b% for p in protocol.dispatch %\x7d",
     "\x7b\x7b m.prototype(p) \x7d\x7d",
     "\x7b% endfor %\x7d",
     "\x7b% endfor %\x7d",
     "",
     "#endif /* \x7b\x7b guard \x7d\x7d */"]

def builtIns : List BuiltIn :=
  [⟨"macros", "macros.h.jinja", macrosText⟩,
   ⟨"protocol", "protocol.h.jinja", protocolText⟩,
   ⟨"instance", "instance.h.jinja", instanceText⟩,
   ⟨"common", "common.h.jinja", commonText⟩,
   ⟨"utils", "utils.h.jinja", utilsText⟩]

end StatusFrames.Template
