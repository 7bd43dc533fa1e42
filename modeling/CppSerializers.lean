import CppSerializers.Benchmarks.Basic
import CppSerializers.Benchmarks.Dispatch
import CppSerializers.Benchmarks.Libraries
import CppSerializers.Benchmarks.Protobuf
import CppSerializers.Benchmarks.Streams
import CppSerializers.Benchmarks.Thrift
import CppSerializers.Benchmarks.Views
import CppSerializers.Foundation.ChunkedOutput
import CppSerializers.Foundation.Coupling
import CppSerializers.Foundation.Decimal
import CppSerializers.Foundation.Delimited
import CppSerializers.Foundation.Loop
import CppSerializers.Foundation.Metering
import CppSerializers.Foundation.Progress
import CppSerializers.Foundation.Reader
import CppSerializers.Foundation.Streaming
import CppSerializers.Foundation.Words
import CppSerializers.Libraries.Archives
import CppSerializers.Libraries.CapnProto
import CppSerializers.Libraries.FlatBuffers
import CppSerializers.Libraries.Protobuf
import CppSerializers.Libraries.ProtobufMessage
import CppSerializers.Libraries.Sequential
import CppSerializers.Libraries.Thrift
import CppSerializers.Libraries.ThriftTransfer
import CppSerializers.Model.Data
import CppSerializers.Program.Main
import CppSerializers.Program.Report
import CppSerializers.Reference.CapnProto
import CppSerializers.Reference.FlatBuffers
import CppSerializers.Reference.Libraries
import CppSerializers.Reference.Msgpack
import CppSerializers.Reference.Protobuf
import CppSerializers.Reference.ProtobufMessage
import CppSerializers.Reference.Sequential
import CppSerializers.Reference.Streams
import CppSerializers.Reference.Thrift
import CppSerializers.Reference.ThriftSkip
import CppSerializers.Reference.ThriftTransfer
import CppSerializers.Schema.Avro
import CppSerializers.Schema.FlatBuffers
import CppSerializers.Schema.Protobuf
import CppSerializers.Schema.Thrift
import CppSerializers.Theorems.CommandLine
import CppSerializers.Theorems.Decodability
import CppSerializers.Theorems.Iterations
import CppSerializers.Theorems.RoundTrips
import CppSerializers.Theorems.Selection
import CppSerializers.Theorems.SelfCheck
import CppSerializers.Theorems.Size
import CppSerializers.Theorems.Table
import CppSerializers.Theorems.Transfer
import CppSerializers.Theorems.Truncation
